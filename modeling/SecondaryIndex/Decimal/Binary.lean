/-
**Binary floating-point numbers taken apart.**

* `BinaryFormat.decode` turns the bits of a format into a sign, a significand and a power of two;
* `Decoded.ofFloat` and `Decoded.ofFloat32` do so for the two widths in use.

A finite value is `significand * 2 ^ exponent`, exactly.
-/

namespace SecondaryIndex.Decimal

/-- The widths of the two stored fields of a binary format. -/
structure BinaryFormat where
  fractionBits : Nat
  exponentBits : Nat

/-- Double precision. -/
def binary64 : BinaryFormat := ⟨52, 11⟩

/-- Single precision. -/
def binary32 : BinaryFormat := ⟨23, 8⟩

/-- A floating-point number by its parts. -/
inductive Decoded where
  /-- Not a number. -/
  | undefined
  /-- An infinity. -/
  | infinite (negative : Bool)
  /-- `significand * 2 ^ exponent`. At a power of two the next smaller number is only half as far
  away as the next greater one, which `narrowBelow` tells. -/
  | finite (negative : Bool) (significand : Nat) (exponent : Int) (narrowBelow : Bool)
deriving DecidableEq, Repr

/-- The parts of the number that the bits stand for. -/
def BinaryFormat.decode (format : BinaryFormat) (bits : Nat) : Decoded :=
  let hidden := Nat.pow 2 format.fractionBits
  let exponents := Nat.pow 2 format.exponentBits
  let fraction := bits % hidden
  let biased := bits / hidden % exponents
  let negative := bits / (hidden * exponents) % 2 = 1
  let bias : Int := exponents / 2 - 1 + format.fractionBits
  if biased = exponents - 1 then
    if fraction = 0 then .infinite negative else .undefined
  else if biased = 0 then .finite negative fraction (1 - bias) false
  else
    .finite negative (hidden + fraction) (biased - bias)
      (fraction = 0 && biased > 1)

/-- The parts of a double. -/
def Decoded.ofFloat (number : Float) : Decoded :=
  binary64.decode number.toBits.toNat

/-- The parts of a single. -/
def Decoded.ofFloat32 (number : Float32) : Decoded :=
  binary32.decode number.toBits.toNat

example : Decoded.ofFloat 1.5 = .finite false (3 * Nat.pow 2 51) (-52) false := by decide

example : Decoded.ofFloat (-0.0) = .finite true 0 (-1074) false := by decide

end SecondaryIndex.Decimal
