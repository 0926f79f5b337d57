/-
**JSON values with the order of their members and the spelling of their numbers kept apart.**

* `Json.Number` separates integers of 64 bits from doubles, since the two are written differently;
* `Json` lists the members of an object in order; a reader may meet a key twice, and `merged` then
  keeps the first position and the last value;
* `Json.Distinct` says that no object repeats a key, at any depth.
-/

import SecondaryIndex.Collections.InsertionMap

namespace SecondaryIndex

/-- A JSON number. -/
inductive Json.Number where
  /-- An integer that fits 64 bits, signed or unsigned. -/
  | integer (value : Int) (fits : -0x8000000000000000 ≤ value ∧ value < 0x10000000000000000)
  /-- Any other number. -/
  | double (value : Float)
deriving DecidableEq

/-- A JSON value. -/
inductive Json where
  | null
  | boolean (value : Bool)
  | number (value : Json.Number)
  | text (value : String)
  | array (items : List Json)
  | object (members : List (String × Json))

namespace Json

instance : Inhabited Json := ⟨.null⟩

/-- The kinds of JSON values, as an error names them. -/
inductive Kind where
  | null
  | boolean
  | number
  | text
  | sequence
  | map
deriving DecidableEq

/-- The kind of a value. -/
def kind : Json → Kind
  | .null => .null
  | .boolean _ => .boolean
  | .number _ => .number
  | .text _ => .text
  | .array _ => .sequence
  | .object _ => .map

/-- The word for a kind. -/
def Kind.word : Kind → String
  | .null => "null"
  | .boolean => "bool"
  | .number => "number"
  | .text => "string"
  | .sequence => "sequence"
  | .map => "map"

/-- The value of a member; nothing for a value that is no object. -/
def member? (key : String) : Json → Option Json
  | .object members => members.lookup key
  | _ => none

/-- A list of members with every key at its first position and with its last value. -/
def mergeMembers (members : List (String × Json)) : List (String × Json) :=
  members.foldl (fun merged entry => InsertionMap.insertEntry entry.1 entry.2 merged) []

mutual

/-- A value in which no object repeats a key. -/
def merged : Json → Json
  | .array items => .array (mergedItems items)
  | .object members => .object (mergeMembers (mergedMembers members))
  | value => value

/-- Each item without repeated keys. -/
def mergedItems : List Json → List Json
  | [] => []
  | item :: rest => merged item :: mergedItems rest

/-- Each member's value without repeated keys. -/
def mergedMembers : List (String × Json) → List (String × Json)
  | [] => []
  | (key, value) :: rest => (key, merged value) :: mergedMembers rest

end

mutual

/-- No object inside the value repeats a key. -/
def Distinct : Json → Prop
  | .array items => DistinctItems items
  | .object members => (members.map Prod.fst).Nodup ∧ DistinctMembers members
  | _ => True

/-- No object inside the items repeats a key. -/
def DistinctItems : List Json → Prop
  | [] => True
  | item :: rest => Distinct item ∧ DistinctItems rest

/-- No object inside the members' values repeats a key. -/
def DistinctMembers : List (String × Json) → Prop
  | [] => True
  | (_, value) :: rest => Distinct value ∧ DistinctMembers rest

end

mutual

/-- Equality of values, decided along their shape. -/
def decideEq : (first second : Json) → Decidable (first = second)
  | .null, .null => isTrue rfl
  | .boolean first, .boolean second =>
    if equal : first = second then isTrue (by rw [equal]) else isFalse (by simp [equal])
  | .number first, .number second =>
    if equal : first = second then isTrue (by rw [equal]) else isFalse (by simp [equal])
  | .text first, .text second =>
    if equal : first = second then isTrue (by rw [equal]) else isFalse (by simp [equal])
  | .array first, .array second =>
    match decideEqItems first second with
    | isTrue equal => isTrue (by rw [equal])
    | isFalse differ => isFalse (by simp [differ])
  | .object first, .object second =>
    match decideEqMembers first second with
    | isTrue equal => isTrue (by rw [equal])
    | isFalse differ => isFalse (by simp [differ])
  | .null, .boolean _ | .null, .number _ | .null, .text _ | .null, .array _ | .null, .object _
  | .boolean _, .null | .boolean _, .number _ | .boolean _, .text _ | .boolean _, .array _
  | .boolean _, .object _ | .number _, .null | .number _, .boolean _ | .number _, .text _
  | .number _, .array _ | .number _, .object _ | .text _, .null | .text _, .boolean _
  | .text _, .number _ | .text _, .array _ | .text _, .object _ | .array _, .null
  | .array _, .boolean _ | .array _, .number _ | .array _, .text _ | .array _, .object _
  | .object _, .null | .object _, .boolean _ | .object _, .number _ | .object _, .text _
  | .object _, .array _ => isFalse (by simp)

/-- Equality of item lists. -/
def decideEqItems : (first second : List Json) → Decidable (first = second)
  | [], [] => isTrue rfl
  | [], _ :: _ | _ :: _, [] => isFalse (by simp)
  | first :: firsts, second :: seconds =>
    match decideEq first second, decideEqItems firsts seconds with
    | isTrue equal, isTrue equalRest => isTrue (by rw [equal, equalRest])
    | isFalse differ, _ => isFalse (by simp [differ])
    | _, isFalse differ => isFalse (by simp [differ])

/-- Equality of member lists. -/
def decideEqMembers : (first second : List (String × Json)) → Decidable (first = second)
  | [], [] => isTrue rfl
  | [], _ :: _ | _ :: _, [] => isFalse (by simp)
  | (firstKey, first) :: firsts, (secondKey, second) :: seconds =>
    if sameKey : firstKey = secondKey then
      match decideEq first second, decideEqMembers firsts seconds with
      | isTrue equal, isTrue equalRest => isTrue (by rw [sameKey, equal, equalRest])
      | isFalse differ, _ => isFalse (by simp [differ])
      | _, isFalse differ => isFalse (by simp [differ])
    else isFalse (by simp [sameKey])

end

instance : DecidableEq Json := decideEq

/-- The number for an integer: a double where 64 bits are too few. -/
def Number.ofInt (value : Int) : Number :=
  if fits : -0x8000000000000000 ≤ value ∧ value < 0x10000000000000000 then .integer value fits
  else .double (Float.ofInt value)

/-- The integer that a number is, if it fits 64 signed bits. -/
def signed? : Json → Option Int
  | .number (.integer value _) => if value < 0x8000000000000000 then some value else none
  | _ => none

/-- The text that a value is. -/
def text? : Json → Option String
  | .text value => some value
  | _ => none

end Json

end SecondaryIndex
