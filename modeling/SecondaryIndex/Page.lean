/-
**A part of a result list: so many items skipped, then at most so many taken.**

* `Page.window` is the range of positions that a page selects from a list of some length;
* `Page.apply` is the selected part of a list.

Both bounds are 64 bits wide, and their sum stays at the greatest such number where it would pass
it.
-/

namespace SecondaryIndex

/-- A request for a part of a list. -/
structure Page where
  /-- How many items to skip. -/
  offset : UInt64
  /-- How many items to take at most, without a bound if `none`. -/
  rows : Option UInt64
deriving DecidableEq

namespace Page

/-- The page with an offset and a number of rows, where zero rows mean no bound. -/
def ofBounds (offset rows : UInt64) : Page :=
  ⟨offset, if rows = 0 then none else some rows⟩

/-- The whole list. -/
def whole : Page :=
  ⟨0, none⟩

/-- The sum of two numbers, or the greatest number of 64 bits where that is less. -/
def saturatingSum (first second : UInt64) : Nat :=
  min (first.toNat + second.toNat) (UInt64.size - 1)

/-- The first position and the one behind the last that the page selects from a list of some
length; nothing where the list is shorter than the offset. -/
def window (page : Page) (length : Nat) : Option (Nat × Nat) :=
  if length < page.offset.toNat then none
  else
    match page.rows with
    | some rows => some (page.offset.toNat, min (saturatingSum page.offset rows) length)
    | none => some (page.offset.toNat, length)

/-- The items that the page selects. -/
def apply {α : Type} (page : Page) (items : List α) : List α :=
  match page.window items.length with
  | some (start, stop) => (items.take stop).drop start
  | none => []

end Page

end SecondaryIndex
