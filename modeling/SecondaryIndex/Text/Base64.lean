/-
**Bytes from a text in base 64.**

Four characters spell three bytes; equals signs fill the last four up where bytes are missing. Bits
that no byte takes are zero.
-/

import SecondaryIndex.Bytes

namespace SecondaryIndex.Text

/-- The characters of the base, in the order of their values. -/
def base64Digits : List Char :=
  "ABCDEFGHIJKLMNOPQRSTUVWXYZabcdefghijklmnopqrstuvwxyz0123456789+/".toList

/-- The value of a character. -/
def base64Digit? (char : Char) : Option Nat :=
  base64Digits.idxOf? char

/-- The number that characters spell. -/
def base64Number? (chars : List Char) : Option Nat :=
  chars.foldlM (fun number char => (base64Digit? char).map (number * 64 + ·)) 0

/-- The bytes of a text. -/
def base64Bytes? : List Char → Option Bytes
  | [] => some []
  | [first, second, '=', '='] => do
    let number ← base64Number? [first, second]
    if number % 16 = 0 then return [UInt8.ofNat (number / 16)] else none
  | [first, second, third, '='] => do
    let number ← base64Number? [first, second, third]
    if number % 4 = 0 then return [UInt8.ofNat (number / 1024), UInt8.ofNat (number / 4)] else none
  | first :: second :: third :: fourth :: rest => do
    let number ← base64Number? [first, second, third, fourth]
    let bytes ← base64Bytes? rest
    return UInt8.ofNat (number / 65536) :: UInt8.ofNat (number / 256) :: UInt8.ofNat number :: bytes
  | _ => none

end SecondaryIndex.Text
