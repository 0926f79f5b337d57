/-
**The compact text of a JSON value.**

* members and items stand in their order, without blanks;
* `Number.render` writes a double with the fewest digits that read back, always with a point or an
  exponent, so that it is never taken for an integer;
* `escaped` uses the short escapes, and `\u00xx` for the other control characters.
-/

import SecondaryIndex.Decimal.Layout
import SecondaryIndex.Json.Value

namespace SecondaryIndex.Json

/-- Doubles from `0.00001` up to sixteen digits have no exponent, whole ones end in `.0`, and
positive exponents carry a sign. -/
def numberLayout : Decimal.Layout where
  positional := some (-4, 16)
  wholeEnd := ".0"
  exponentSign := "+"
  tie := .toEven

/-- The text of a number. -/
def Number.render : Number → String
  | .integer value _ => toString value
  | .double value => numberLayout.float value

/-- One character inside quotes. -/
def escaped (char : Char) : String :=
  if char = '"' then "\\\""
  else if char = '\\' then "\\\\"
  else if char = '\x08' then "\\b"
  else if char = '\x0C' then "\\f"
  else if char = '\n' then "\\n"
  else if char = '\r' then "\\r"
  else if char = '\t' then "\\t"
  else if char.toNat < 0x20 then
    "\\u00" ++ String.ofList [Nat.digitChar (char.toNat / 16), Nat.digitChar (char.toNat % 16)]
  else String.singleton char

/-- A text between quotes. -/
def quoted (text : String) : String :=
  "\"" ++ String.join (text.toList.map escaped) ++ "\""

mutual

/-- The text of a value. -/
def render : Json → String
  | .null => "null"
  | .boolean value => if value then "true" else "false"
  | .number value => value.render
  | .text value => quoted value
  | .array items => "[" ++ ",".intercalate (renderItems items) ++ "]"
  | .object members => "\x7b" ++ ",".intercalate (renderMembers members) ++ "\x7d"

/-- The texts of the items. -/
def renderItems : List Json → List String
  | [] => []
  | item :: rest => render item :: renderItems rest

/-- The texts of the members, each a key and a value. -/
def renderMembers : List (String × Json) → List String
  | [] => []
  | (key, value) :: rest => (quoted key ++ ":" ++ render value) :: renderMembers rest

end

end SecondaryIndex.Json
