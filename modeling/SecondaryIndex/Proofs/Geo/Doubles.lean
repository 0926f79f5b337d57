/-
**The order of doubles.**

The keys of doubles are in one line, while doubles compare as numbers do: both zeros are equal, and
what is undefined compares with nothing.

* `Placed` — how many doubles an unpacked number is away from zero, and `Placed.compare_eq` —
  numbers compare as their places do;
* `placed_unpack` — bits that stand for a number are its sign and its place;
* `compare_unpack` and `compare_placeOf` — so doubles compare as their keys do, but for the two
  zeros;
* `le_of_totalKey_le`, `not_lt_of_totalKey_le`, `zeros_of_totalKey_lt` — what the order of two keys
  says of the doubles.
-/

import Mathlib.Algebra.Group.Int.Defs
import Mathlib.Algebra.Group.Nat.Defs
import SecondaryIndex.Geo

namespace SecondaryIndex

open Float.Model (UnpackedFloat)
open Float.Model.UnpackedFloat (Sign)

/-! ## Part 1 — places of numbers -/

/-- **An unpacked number is so many doubles away from zero**, on the side of its sign. -/
inductive Placed (sign : Sign) : Nat → UnpackedFloat → Prop
  | zero : Placed sign 0 (.zero sign)
  | finite {place significand : Nat} {exponent : Int} (positive : 0 < significand)
    (size : significand < 2 ^ 53) (first : -1074 ≤ exponent) (last : exponent ≤ 971)
    (subnormal : significand < 2 ^ 52 → exponent = -1074)
    (away : (place : Int) = (exponent + 1074) * 2 ^ 52 + significand) :
    Placed sign place (.finite sign significand exponent positive)
  | infinity : Placed sign (2047 * 2 ^ 52) (.infinity sign)

namespace Placed

variable {sign other : Sign} {place further : Nat} {number second : UnpackedFloat}

/-- Of finite numbers the exponents count first, and then the significands. -/
theorem compare_then {significand next : Nat} {exponent later : Int}
    (size : significand < 2 ^ 53) (nextSize : next < 2 ^ 53) (first : -1074 ≤ exponent)
    (nextFirst : -1074 ≤ later) (subnormal : significand < 2 ^ 52 → exponent = -1074)
    (nextSubnormal : next < 2 ^ 52 → later = -1074)
    (away : (place : Int) = (exponent + 1074) * 2 ^ 52 + significand)
    (nextAway : (further : Int) = (later + 1074) * 2 ^ 52 + next) :
    (compare exponent later).then (compare significand next) = compare (place : Int) further := by
  rcases Int.lt_trichotomy exponent later with below | rfl | above
  · rw [Int.compare_eq_lt.mpr below, Int.compare_eq_lt.mpr (by omega)]
    rfl
  · rw [Int.compare_eq_eq.mpr rfl]
    rcases Nat.lt_trichotomy significand next with below | rfl | above
    · rw [Nat.compare_eq_lt.mpr below, Int.compare_eq_lt.mpr (by omega)]
      rfl
    · rw [Nat.compare_eq_eq.mpr rfl, Int.compare_eq_eq.mpr (by omega)]
      rfl
    · rw [Nat.compare_eq_gt.mpr above, Int.compare_eq_gt.mpr (by omega)]
      rfl
  · rw [Int.compare_eq_gt.mpr above, Int.compare_eq_gt.mpr (by omega)]
    rfl

theorem compare_neg (one other : Int) : compare (-one) (-other) = (compare one other).swap := by
  rw [Int.compare_swap]
  rcases Int.lt_trichotomy one other with below | rfl | above
  · rw [Int.compare_eq_gt.mpr (by omega), Int.compare_eq_gt.mpr below]
  · rw [Int.compare_eq_eq.mpr rfl, Int.compare_eq_eq.mpr rfl]
  · rw [Int.compare_eq_lt.mpr (by omega), Int.compare_eq_lt.mpr above]

/-- **Numbers compare as their places do**, both zeros at one. -/
theorem compare_eq (one : Placed sign place number) (next : Placed other further second) :
    number.compare second = some (compare (sign.apply place) (other.apply further)) := by
  cases one <;> cases next <;> cases sign <;> cases other <;> refine congrArg some ?_ <;>
    simp only [Sign.apply]
  case finite.finite.negative.negative size first _ subnormal away _ _ _ nextSize nextFirst _
      nextSubnormal nextAway =>
    rw [compare_neg, compare_then size nextSize first nextFirst subnormal nextSubnormal away
      nextAway]
  case finite.finite.positive.positive size first _ subnormal away _ _ _ nextSize nextFirst _
      nextSubnormal nextAway =>
    exact compare_then size nextSize first nextFirst subnormal nextSubnormal away nextAway
  -- otherwise the forms and the signs decide
  all_goals first
    | exact (Int.compare_eq_lt.mpr (by omega)).symm
    | exact (Int.compare_eq_gt.mpr (by omega)).symm
    | exact (Int.compare_eq_eq.mpr (by omega)).symm

end Placed

/-! ## Part 2 — doubles -/

section Fields

open Float.Model.UnpackedFloat (unpackExponent unpackMantissa unpackSign)

variable (bits : BitVec 64)

theorem toNat_unpackExponent :
    (@unpackExponent .binary64 bits).toNat = bits.toNat / 2 ^ 52 % 2 ^ 11 := by
  simp [unpackExponent, Nat.shiftRight_eq_div_pow]

theorem toNat_unpackMantissa :
    (@unpackMantissa .binary64 bits).toNat = bits.toNat % 2 ^ 52 := by
  simp [unpackMantissa]

theorem toNat_hidden (fraction : BitVec 52) :
    (1#1 ++ fraction).toNat = 2 ^ 52 + fraction.toNat := by
  rw [BitVec.toNat_append, ← Nat.shiftLeft_add_eq_or_of_lt fraction.isLt]
  rfl

/-- The sign of some bits. -/
theorem ofBitVec_unpackSign :
    Sign.ofBitVec (@unpackSign .binary64 bits) =
      if bits.toNat < 2 ^ 63 then .positive else .negative := by
  have size : bits.toNat < 2 ^ 64 := bits.isLt
  have number : (@unpackSign .binary64 bits).toNat = bits.toNat / 2 ^ 63 % 2 := by
    unfold unpackSign
    simp [Nat.shiftRight_eq_div_pow]
  by_cases plus : bits.toNat < 2 ^ 63
  · rw [Sign.ofBitVec, if_pos plus, if_pos (BitVec.eq_of_toNat_eq (number.trans ?_))]
    show _ = 0
    omega
  · rw [Sign.ofBitVec, if_neg plus, if_neg fun zero => ?_]
    rw [zero] at number
    change 0 = _ at number
    omega

/-- **Bits that stand for a number** are its sign and its place. -/
theorem placed_unpack {word : BitVec 64}
    (defined : (UnpackedFloat.unpack .binary64 word).isNaN = false) :
    Placed (if word.toNat < 2 ^ 63 then .positive else .negative) (word.toNat % 2 ^ 63)
      (UnpackedFloat.unpack .binary64 word) := by
  have size : word.toNat < 2 ^ 64 := word.isLt
  have exponent := toNat_unpackExponent word
  have fraction := toNat_unpackMantissa word
  have bias : (Float.Model.Format.binary64.exponentBias : Int) + (52 : Nat) = 1075 := rfl
  rw [← ofBitVec_unpackSign]
  unfold UnpackedFloat.unpack at defined ⊢
  dsimp only at defined ⊢
  by_cases last : @unpackExponent .binary64 word = -1#11
  · have top : word.toNat / 2 ^ 52 % 2 ^ 11 = 2047 := exponent.symm.trans (congrArg _ last)
    rw [if_pos last] at defined ⊢
    by_cases none : @unpackMantissa .binary64 word = 0#52
    · have whole : word.toNat % 2 ^ 52 = 0 := fraction.symm.trans (congrArg _ none)
      rw [if_pos none, show word.toNat % 2 ^ 63 = 2047 * 2 ^ 52 by omega]
      exact .infinity
    · rw [if_neg none] at defined
      cases defined
  · have below : word.toNat / 2 ^ 52 % 2 ^ 11 ≠ 2047 := fun top =>
      last (BitVec.eq_of_toNat_eq (exponent.trans top))
    rw [if_neg last]
    by_cases first : @unpackExponent .binary64 word = 0#11
    · have least : word.toNat / 2 ^ 52 % 2 ^ 11 = 0 := exponent.symm.trans (congrArg _ first)
      rw [if_pos first]
      by_cases none : @unpackMantissa .binary64 word = 0#52
      · have whole : word.toNat % 2 ^ 52 = 0 := fraction.symm.trans (congrArg _ none)
        rw [dif_pos none, show word.toNat % 2 ^ 63 = 0 by omega]
        exact .zero
      · rw [dif_neg none]
        refine .finite _ ?_ ?_ ?_ ?_ ?_ <;>
          simp only [bias, exponent, fraction] <;> omega
    · have above : word.toNat / 2 ^ 52 % 2 ^ 11 ≠ 0 := fun least =>
        first (BitVec.eq_of_toNat_eq (exponent.trans least))
      rw [if_neg first]
      refine .finite _ ?_ ?_ ?_ ?_ ?_ <;>
        simp only [bias, exponent, fraction, toNat_hidden] <;> omega

end Fields

/-- The place of a double in the line of numbers: that of its key, but both zeros are at one. -/
def placeOf (number : Float) : Int :=
  if 0 ≤ totalKey number then totalKey number else totalKey number + 1

theorem exists_placed {number : Float} (defined : number.isNaN = false) :
    ∃ sign place, Placed sign place number.toModel.unpack ∧
      placeOf number = sign.apply place := by
  refine ⟨_, _, placed_unpack defined, ?_⟩
  have size : number.toBits.toNat < 2 ^ 64 := number.toBits.toBitVec.isLt
  have key : totalKey number = if number.toBits.toNat < 2 ^ 63 then (number.toBits.toNat : Int)
    else -(number.toBits.toNat - 2 ^ 63) - 1 := rfl
  show placeOf number =
    (if number.toBits.toNat < 2 ^ 63 then Sign.positive else .negative).apply
      (number.toBits.toNat % 2 ^ 63 : Nat)
  rw [placeOf]
  split at key
  · rw [if_pos (by omega), if_pos ‹_›, Sign.apply]
    omega
  · rw [if_neg (by omega), if_neg ‹_›, Sign.apply]
    omega

/-! ## Part 3 — comparing doubles -/

section Comparing

variable {one other : Float}

/-- **Doubles that are numbers compare as their places do.** -/
theorem compare_unpack (first : one.isNaN = false) (second : other.isNaN = false) :
    one.toModel.unpack.compare other.toModel.unpack =
      some (compare (placeOf one) (placeOf other)) := by
  obtain ⟨sign, place, placed, here⟩ := exists_placed first
  obtain ⟨otherSign, further, next, there⟩ := exists_placed second
  rw [placed.compare_eq next, here, there]

theorem eq_notANumber {number : UnpackedFloat} (undefined : number.isNaN = true) :
    number = .notANumber := by
  cases number with
  | notANumber => rfl
  | _ => cases undefined

/-- What is undefined compares with nothing. -/
theorem compare_unpack_of_isNaN (either : one.isNaN = true ∨ other.isNaN = true) :
    one.toModel.unpack.compare other.toModel.unpack = none := by
  rcases either with first | second
  · rw [eq_notANumber first]
    rfl
  · rw [eq_notANumber second]
    cases one.toModel.unpack with
    | infinity sign => cases sign <;> rfl
    | finite sign => cases sign <;> rfl
    | _ => rfl

/-- Where two doubles compare at all, their places compare alike. -/
theorem compare_placeOf {order : Ordering}
    (compared : one.toModel.unpack.compare other.toModel.unpack = some order) :
    compare (placeOf one) (placeOf other) = order := by
  cases defined : (one.isNaN || other.isNaN) with
  | true =>
    rw [compare_unpack_of_isNaN ((Bool.or_eq_true ..).mp defined)] at compared
    cases compared
  | false =>
    obtain ⟨first, second⟩ := Bool.or_eq_false_iff.mp defined
    rwa [compare_unpack first second, Option.some.injEq] at compared

theorem le_iff_compare : one ≤ other ↔
    (one.toModel.unpack.compare other.toModel.unpack).any Ordering.isLE = true := by
  show Float.le one other = true ↔ _
  rw [Float.le, decide_eq_true_iff]
  rfl

theorem lt_iff_compare : one < other ↔
    one.toModel.unpack.compare other.toModel.unpack = some .lt := by
  show Float.lt one other = true ↔ _
  rw [Float.lt, decide_eq_true_iff]
  show (_ == _) = true ↔ _
  rw [beq_iff_eq]

theorem beq_iff_compare : (one == other) = true ↔
    one.toModel.unpack.compare other.toModel.unpack = some .eq := by
  show (one.toModel.unpack.compare other.toModel.unpack == some .eq) = true ↔ _
  rw [beq_iff_eq]

/-- What is undefined is not below anything. -/
theorem isNaN_of_le (below : one ≤ other) : one.isNaN = false := by
  rw [le_iff_compare] at below
  refine Bool.eq_false_iff.mpr fun undefined => ?_
  rw [compare_unpack_of_isNaN (.inl undefined)] at below
  cases below

/-! ### The line of all doubles -/

/-- The keys are in the order of the places. -/
theorem placeOf_le (below : totalKey one ≤ totalKey other) : placeOf one ≤ placeOf other := by
  rw [placeOf, placeOf]
  split <;> split <;> omega

/-- **Numbers are in the order of their keys.** -/
theorem le_of_totalKey_le (first : one.isNaN = false) (second : other.isNaN = false)
    (below : totalKey one ≤ totalKey other) : one ≤ other := by
  rw [le_iff_compare, compare_unpack first second, Option.any_some, Int.isLE_compare]
  exact placeOf_le below

theorem not_lt_of_totalKey_le (below : totalKey one ≤ totalKey other) : ¬ other < one := by
  intro above
  have place := Int.compare_eq_lt.mp (compare_placeOf (lt_iff_compare.mp above))
  exact absurd (placeOf_le below) (Int.not_le.mpr place)

/-- A double is told by its bits. -/
theorem eq_of_toNat_toBits (same : one.toBits.toNat = other.toBits.toNat) : one = other := by
  rcases one with ⟨⟨bits, _⟩⟩
  rcases other with ⟨⟨others, _⟩⟩
  obtain rfl : bits = others := UInt64.toNat_inj.mp same
  rfl

/-- **Equal numbers with different keys are the two zeros.** -/
theorem zeros_of_totalKey_lt (below : totalKey one < totalKey other)
    (equal : (one == other) = true) : one = -0.0 ∧ other = 0.0 := by
  have place := Int.compare_eq_eq.mp (compare_placeOf (beq_iff_compare.mp equal))
  -- only the keys on both sides of zero share a place
  have zeros : one.toBits.toNat = 2 ^ 63 ∧ other.toBits.toNat = 0 := by
    simp only [placeOf, totalKey] at below place
    omega
  exact ⟨eq_of_toNat_toBits zeros.1, eq_of_toNat_toBits zeros.2⟩

end Comparing

end SecondaryIndex
