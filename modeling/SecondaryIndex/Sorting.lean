/-
**Orderings of results.**

* a `Sorting` is a comparison; `reverse` swaps its sides, `andThen` breaks its ties;
* `apply` sorts a list and keeps tied items in the order they had, also under a reversed comparison;
* `byMember` and `byMemberText` compare JSON values by one of their members.
-/

import SecondaryIndex.Bytes
import SecondaryIndex.Json.Printer

namespace SecondaryIndex

/-- A comparison of items. -/
structure Sorting (α : Type) where
  compare : α → α → Ordering

namespace Sorting

variable {α β κ : Type}

/-- Compares items by a key. -/
def byKey (order : κ → κ → Ordering) (key : α → κ) : Sorting α :=
  ⟨fun first second => order (key first) (key second)⟩

/-- The opposite order; ties stay ties. -/
def reverse (sorting : Sorting α) : Sorting α :=
  ⟨fun first second => sorting.compare second first⟩

/-- A second order for the ties of the first. -/
def andThen (first second : Sorting α) : Sorting α :=
  ⟨fun one other => (first.compare one other).then (second.compare one other)⟩

/-- The order of some view of the items. -/
def on (sorting : Sorting β) (view : α → β) : Sorting α :=
  byKey sorting.compare view

/-- The items in order, tied ones in the order they had. -/
def apply (sorting : Sorting α) (items : List α) : List α :=
  items.mergeSort fun first second => sorting.compare first second ≠ .gt

/-! ### Orders of JSON values -/

/-- The order of two byte strings. -/
def compareBytes (first second : Bytes) : Ordering :=
  if first < second then .lt else if first = second then .eq else .gt

/-- Compares by a member as a signed number, zero if it is none, then as a text, empty if it is
none. -/
def byMember (key : String) : Sorting Json :=
  (byKey Ord.compare fun value => ((value.member? key).bind Json.signed?).getD (0 : Int)).andThen
    (byKey compareBytes fun value =>
      Bytes.ofString (((value.member? key).bind Json.text?).getD ""))

/-- Compares by the compact text of a member, empty if there is none. -/
def byMemberText (key : String) : Sorting Json :=
  byKey compareBytes fun value => Bytes.ofString (((value.member? key).map Json.render).getD "")

end Sorting

end SecondaryIndex
