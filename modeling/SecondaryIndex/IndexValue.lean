/-
**Values as an index stores them.**

* an `IndexValue` is a byte string, compared byte by byte;
* `IndexValue.ofScalar` gives the text of a scalar: strings as they are, numbers with the fewest
  digits and never with an exponent;
* `IndexValue.ofJson?` gives the text of a JSON scalar, whose numbers are spelled as in JSON.
-/

import SecondaryIndex.Bytes
import SecondaryIndex.Json.Printer
import SecondaryIndex.Text.Quoted

namespace SecondaryIndex

/-- A value as an index stores it. -/
structure IndexValue where
  bytes : Bytes
deriving DecidableEq

/-- A value as a caller gives it. -/
inductive Scalar where
  | text (value : String)
  /-- Bytes that are stored unchanged. -/
  | raw (value : Bytes)
  | boolean (value : Bool)
  | character (value : Char)
  | integer (value : Int)
  | single (value : Float32)
  | double (value : Float)

namespace IndexValue

/-- Numbers are written without an exponent, and whole ones without a point. -/
def numberLayout : Decimal.Layout where
  positional := none
  wholeEnd := ""
  exponentSign := ""
  tie := .up

/-- A text as an index stores it. -/
def ofString (text : String) : IndexValue :=
  ⟨Bytes.ofString text⟩

/-- A scalar as an index stores it. -/
def ofScalar : Scalar → IndexValue
  | .text value => ofString value
  | .raw value => ⟨value⟩
  | .boolean value => ofString (if value then "true" else "false")
  | .character value => ofString (String.singleton value)
  | .integer value => ofString (toString value)
  | .single value => ofString (numberLayout.float32 value)
  | .double value => ofString (numberLayout.float value)

/-- A JSON scalar as an index stores it; null and containers are not indexed. -/
def ofJson? : Json → Option IndexValue
  | .text value => some (ofString value)
  | .number value => some (ofString value.render)
  | .boolean value => some (ofScalar (.boolean value))
  | _ => none

/-- The diagnostic spelling of a value. -/
def debug (value : IndexValue) : String :=
  "IndexValue(" ++
    (match value.bytes.toText? with
      | some text => Text.quoted text
      | none => value.bytes.quoted) ++ ")"

/-- The order of two values. -/
def order (first second : IndexValue) : Ordering :=
  if first.bytes < second.bytes then .lt else if first.bytes = second.bytes then .eq else .gt

end IndexValue

end SecondaryIndex
