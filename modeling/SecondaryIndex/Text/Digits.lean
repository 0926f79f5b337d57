/-
**Digits, and the numbers that they spell.**

Digits are decimal ones and the letters of the hexadecimal ones, in either case.
-/

namespace SecondaryIndex.Text

/-- The value of a digit. -/
def digit? (char : Char) : Option Nat :=
  let letter := char.toLower
  if char.isDigit then some (char.toNat - '0'.toNat)
  else if 'a' ≤ letter ∧ letter ≤ 'f' then some (letter.toNat - 'a'.toNat + 10)
  else none

/-- The number that digits spell in a base, if each of them is one of the base. -/
def number? (base : Nat) (digits : List Char) : Option Nat :=
  digits.foldlM (fun number char => do
    let digit ← digit? char
    if digit < base then some (number * base + digit) else none) 0

end SecondaryIndex.Text
