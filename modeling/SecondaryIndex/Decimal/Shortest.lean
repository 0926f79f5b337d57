/-
**The shortest decimal that reads back as the same binary number.**

* `Interval` is the set of reals that round to a binary number, in exact integer arithmetic;
* `shortest` tries one digit, two digits and so on; on each decimal grid it tests the two
  neighbours of the number and stops at the first grid with a hit;
* of two hits the nearer wins, and `Tie` says which of two equally near ones.

If any point of a grid lies in the interval then so does one of the two neighbours, hence no
shorter decimal is missed.
-/

import SecondaryIndex.Decimal.Binary

namespace SecondaryIndex.Decimal

/-- The choice between two equally near decimals. -/
inductive Tie where
  /-- The greater one. -/
  | up
  /-- The one whose last digit is even. -/
  | toEven
deriving DecidableEq

/-- The reals that round to a binary number: from `lower / unit` to `upper / unit` around
`value / unit`, the ends belonging to it if `closed`. -/
structure Interval where
  lower : Nat
  value : Nat
  upper : Nat
  unit : Nat
  closed : Bool

/-- The reals that round to `significand * 2 ^ exponent`. -/
def Interval.around (significand : Nat) (exponent : Int) (narrowBelow : Bool) : Interval :=
  let scale := Nat.pow 2 (exponent - 2).toNat
  { lower := (4 * significand - if narrowBelow then 1 else 2) * scale
    value := 4 * significand * scale
    upper := (4 * significand + 2) * scale
    unit := Nat.pow 2 (2 - exponent).toNat
    closed := significand % 2 = 0 }

/-- The number of digits before the decimal point: the least `n` with the value below `10 ^ n`. -/
def Interval.pointPosition (interval : Interval) : Int :=
  if interval.unit ≤ interval.value then (Nat.repr (interval.value / interval.unit)).length
  else 1 - (Nat.repr ((interval.unit - 1) / interval.value)).length

/-- A decimal: `digits * 10 ^ exponent`. -/
structure ShortDecimal where
  digits : Nat
  exponent : Int
deriving DecidableEq, Repr

/-- The candidate `digits * 10 ^ exponent`, over the unit of the interval. -/
def Interval.contains (interval : Interval) (digits : Nat) (exponent : Int) : Bool :=
  let candidate := digits * interval.unit * Nat.pow 10 exponent.toNat
  let scale := Nat.pow 10 (-exponent).toNat
  if interval.closed then
    interval.lower * scale ≤ candidate && candidate ≤ interval.upper * scale
  else interval.lower * scale < candidate && candidate < interval.upper * scale

/-- The hit on the grid with `count` digits, if one of the two neighbours of the value is a hit. -/
def Interval.onGrid (interval : Interval) (tie : Tie) (point : Int) (count : Nat) :
    Option ShortDecimal :=
  let exponent := point - count
  let step := interval.unit * Nat.pow 10 exponent.toNat
  let value := interval.value * Nat.pow 10 (-exponent).toNat
  let below := value / step
  let rest := value % step
  match interval.contains below exponent, interval.contains (below + 1) exponent with
  | false, false => none
  | true, false => some ⟨below, exponent⟩
  | false, true => some ⟨below + 1, exponent⟩
  | true, true =>
    if 2 * rest < step then some ⟨below, exponent⟩
    else if step < 2 * rest then some ⟨below + 1, exponent⟩
    else if tie = .toEven && below % 2 = 0 then some ⟨below, exponent⟩
    else some ⟨below + 1, exponent⟩

/-- A decimal without zeros at its end; `fuel` bounds their number. -/
def ShortDecimal.stripZeros : Nat → ShortDecimal → ShortDecimal
  | 0, decimal => decimal
  | fuel + 1, decimal =>
    if decimal.digits ≠ 0 ∧ decimal.digits % 10 = 0 then
      stripZeros fuel ⟨decimal.digits / 10, decimal.exponent + 1⟩
    else decimal

/-- Seventeen digits tell any two numbers of either width apart. -/
def maxDigits : Nat := 17

/-- The shortest decimal that rounds to `significand * 2 ^ exponent`, for a significand above
zero. -/
def shortest (tie : Tie) (significand : Nat) (exponent : Int) (narrowBelow : Bool) :
    ShortDecimal :=
  let interval := Interval.around significand exponent narrowBelow
  let point := interval.pointPosition
  let hit := (List.range maxDigits).findSome? fun count =>
    interval.onGrid tie point (count + 1)
  (hit.getD ⟨0, 0⟩).stripZeros maxDigits

example : shortest .up 9007199254740993 (-2) false = ⟨22517998136852483, -1⟩ := by decide +kernel

example : shortest .toEven 9007199254740993 (-2) false = ⟨22517998136852482, -1⟩ := by
  decide +kernel

end SecondaryIndex.Decimal
