/-
**Dotted paths into a JSON value.**

* `arrayIndex?` takes a bracketed number for the index of an item, and any other segment is the key
  of a member;
* `steps` splits a path at its dots;
* `lookup` follows a path; `place` puts a leaf at the end of one, making containers on its way.

`place` refuses an index at or past a bound, so that a short path cannot ask for a long array.
-/

import SecondaryIndex.Json.Value

namespace SecondaryIndex.Json

/-- One step into a value. -/
inductive Step where
  | key (name : String)
  | index (position : Nat)
deriving DecidableEq

/-- The number that the digits spell, if they are digits and 64 bits hold it; a plus sign may
precede them. -/
def indexValue? (digits : List Char) : Option Nat :=
  let digits :=
    match digits with
    | '+' :: rest => rest
    | digits => digits
  if digits.isEmpty || !digits.all Char.isDigit then none
  else
    let value := Nat.ofDigitChars 10 digits 0
    if value < UInt64.size then some value else none

/-- The index in a bracketed segment such as `[3]`. -/
def arrayIndex? : List Char → Option Nat
  | '[' :: rest => if rest.getLast? = some ']' then indexValue? rest.dropLast else none
  | _ => none

/-- The step that a segment asks for. -/
def Step.ofSegment (segment : List Char) : Step :=
  match arrayIndex? segment with
  | some position => .index position
  | none => .key (String.ofList segment)

/-- The segments between the dots of a path. -/
def segments (path : String) : List (List Char) :=
  path.toList.splitOn '.'

/-- The steps that a path spells. -/
def steps (path : String) : List Step :=
  (segments path).map Step.ofSegment

/-- The value one step further in. -/
def child? : Step → Json → Option Json
  | .key name, .object members => members.lookup name
  | .index position, .array items => items[position]?
  | _, _ => none

/-- The value at the end of some steps. -/
def follow : List Step → Json → Option Json
  | [], value => some value
  | step :: rest, value => (child? step value).bind (follow rest)

/-- The value at the end of a path. -/
def lookup (path : String) (value : Json) : Option Json :=
  follow (steps path) value

/-- The items of an array, none for any other value. -/
def itemsOf : Json → List Json
  | .array items => items
  | _ => []

/-- The members of an object, none for any other value. -/
def membersOf : Json → List (String × Json)
  | .object members => members
  | _ => []

/-- A list made long enough to have an item at a position. -/
def padded (items : List Json) (position : Nat) : List Json :=
  items ++ List.replicate (position + 1 - items.length) .null

/-- Puts a leaf at the end of some steps. A value of the wrong kind on the way gives way to a
container; an index at or past the bound is refused. -/
def place (bound : Nat) (leaf : Json) : List Step → Json → Option Json
  | [], _ => some leaf
  | .index position :: rest, target =>
    if bound ≤ position then none
    else
      let items := padded (itemsOf target) position
      (place bound leaf rest (items[position]?.getD .null)).map fun slot =>
        .array (items.set position slot)
  | .key name :: rest, target =>
    let members := membersOf target
    (place bound leaf rest ((members.lookup name).getD .null)).map fun slot =>
      .object (InsertionMap.insertEntry name slot members)

example : steps "tags.[10].x" = [.key "tags", .index 10, .key "x"] := by decide +kernel

example : steps ".[x]" = [.key "", .key "[x]"] := by decide +kernel

end SecondaryIndex.Json
