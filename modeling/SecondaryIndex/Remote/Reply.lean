/-
**Replies of a remote store, and what they are read as.**

* `Reply.members?` reads a list of byte strings, `Reply.count?` a number, `Reply.fields?` fields;
* a missing value reads as an empty list or as no fields;
* `Reply.isError` tells the replies that are errors, which are never read as anything.
-/

import SecondaryIndex.Record

namespace SecondaryIndex.Remote

/-- A reply of a remote store. -/
inductive Reply where
  /-- There is no value. -/
  | missing
  | integer (value : Int)
  | bytes (value : Bytes)
  /-- A short text such as an acknowledgement. -/
  | status (text : String)
  | array (items : List Reply)
  | error (text : String)

namespace Reply

/-- The reply is an error. -/
def isError : Reply → Bool
  | .error _ => true
  | _ => false

/-- The bytes of a reply that is a byte string. -/
def bytes? : Reply → Option Bytes
  | .bytes value => some value
  | _ => none

/-- The number that digits spell, if there are any and 64 bits hold it. -/
def decimal? (digits : Bytes) : Option Nat :=
  match digits.toText? with
  | some text =>
    if text.toList ≠ [] ∧ text.toList.all Char.isDigit then
      let value := Nat.ofDigitChars 10 text.toList 0
      if value < UInt64.size then some value else none
    else none
  | none => none

/-- A reply as a list of byte strings. -/
def members? : Reply → Option (List Bytes)
  | .missing => some []
  | .array items => items.mapM bytes?
  | _ => none

/-- A reply as a number. -/
def count? : Reply → Option Nat
  | .integer value => if 0 ≤ value then some value.toNat else none
  | .bytes digits => decimal? digits
  | _ => none

/-- Byte strings as fields and values in turn. -/
def pairs? : List Bytes → Option (List (Bytes × Bytes))
  | [] => some []
  | [_] => none
  | field :: value :: rest => (pairs? rest).map ((field, value) :: ·)

/-- A reply as fields; a later value of a field replaces an earlier one. -/
def fields? (reply : Reply) : Option Fields := do
  let words ← reply.members?
  let pairs ← pairs? words
  return ByteMap.ofList pairs

end Reply

end SecondaryIndex.Remote
