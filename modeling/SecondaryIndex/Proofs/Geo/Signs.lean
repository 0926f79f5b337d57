/-
**A distance is not minus zero.**

Distances are sorted by their keys, and among these minus zero comes before zero:

* `roundWithAccuracy_cases` and `pack_finite` — what rounding makes of a number, and how a finite
  one is packed;
* `HasSign` — the sign of an unpacked double, kept by products and by rounding;
* `Representable` — what rounding makes of a number that is not zero, and what is not packed to a
  zero;
* `unpack_add_ne` — a sum with a part that has no minus sign is not minus zero;
* `ArcsineKeepsPlus` — what the arcsine is supposed to do, and `isPlus_distance` — then a distance
  has no minus sign.
-/

import SecondaryIndex.Proofs.Geo.Doubles

namespace SecondaryIndex

open Float.Model (UnpackedFloat)
open Float.Model.UnpackedFloat (Sign Accuracy ExtendedMantissa)

/-! ## Part 1 — signs -/

/-- The unpacked double has the sign; what is undefined has any. -/
def HasSign (sign : Sign) : UnpackedFloat → Prop
  | .notANumber => True
  | .infinity own => own = sign
  | .zero own => own = sign
  | .finite own _ _ _ => own = sign

/-- **The double has no minus sign**, which is its first bit. -/
def IsPlus (number : Float) : Prop :=
  number.toBits.toNat < 2 ^ 63

theorem Placed.hasSign {sign : Sign} {place : Nat} {number : UnpackedFloat}
    (placed : Placed sign place number) : HasSign sign number := by
  cases placed <;> rfl

theorem hasSign_unpack (word : BitVec 64) :
    HasSign (if word.toNat < 2 ^ 63 then .positive else .negative)
      (UnpackedFloat.unpack .binary64 word) := by
  cases defined : (UnpackedFloat.unpack .binary64 word).isNaN with
  | true =>
    rw [eq_notANumber defined]
    trivial
  | false => exact (placed_unpack defined).hasSign

theorem exists_hasSign (number : UnpackedFloat) : ∃ sign, HasSign sign number := by
  cases number with
  | notANumber => exact ⟨.positive, trivial⟩
  | infinity sign => exact ⟨sign, rfl⟩
  | zero sign => exact ⟨sign, rfl⟩
  | finite sign => exact ⟨sign, rfl⟩

/-! ### Rounding and packing -/

theorem mantissa_shiftRight (extended : ExtendedMantissa) (amount : Nat) :
    (extended >>> amount).mantissa = extended.mantissa / 2 ^ amount := by
  induction amount with
  | zero => exact (Nat.div_one _).symm
  | succ amount ih =>
    show (ExtendedMantissa.shiftRightOne (extended >>> amount)).mantissa = _
    rw [ExtendedMantissa.shiftRightOne, ih, Nat.div_div_eq_div_mul, Nat.pow_succ]

theorem mantissa_ofMantissaAndAccuracy (significand : Nat) (accuracy : Accuracy) :
    (ExtendedMantissa.ofMantissaAndAccuracy significand accuracy).mantissa = significand := by
  rcases accuracy with _ | order
  · rfl
  · cases order <;> rfl

/-- How far a significand is shifted to where its exponent should be. -/
def shiftOf (significand : Nat) (exponent : Int) : Nat :=
  (max ((significand.log2 : Int) + 1 + exponent - 53) (-1074) - exponent).toNat

/-- **What rounding makes** of a number: a zero where two shifts leave nothing of its significand,
and else a finite double. -/
theorem roundWithAccuracy_cases (sign : Sign) (significand : Nat) (exponent : Int)
    (accuracy : Accuracy) :
    let rounded := (ExtendedMantissa.ofMantissaAndAccuracy significand accuracy >>>
      shiftOf significand exponent).roundedMantissa
    let later := exponent + shiftOf significand exponent
    let left := rounded / 2 ^ shiftOf rounded later
    left = 0 ∧
        UnpackedFloat.roundWithAccuracy .binary64 sign significand exponent accuracy = .zero sign ∨
      ∃ some : 0 < left,
        UnpackedFloat.roundWithAccuracy .binary64 sign significand exponent accuracy =
          .finite sign left (later + shiftOf rounded later) some := by
  intro rounded later left
  have shifted : (ExtendedMantissa.ofMantissaAndAccuracy rounded .exact >>>
      shiftOf rounded later).mantissa = left := by
    rw [mantissa_shiftRight, mantissa_ofMantissaAndAccuracy]
  have same {significand : Nat} (equal : significand = left) (some : 0 < significand) :
      UnpackedFloat.finite sign significand (later + shiftOf rounded later) some =
        .finite sign left (later + shiftOf rounded later) (equal ▸ some) := by
    subst equal
    rfl
  by_cases none : left = 0
  · exact .inl ⟨none, dif_pos (shifted.trans none)⟩
  · exact .inr ⟨Nat.pos_of_ne_zero none,
      (dif_neg fun empty => none (shifted.symm.trans empty)).trans (same shifted _)⟩

theorem hasSign_roundWithAccuracy (sign : Sign) (significand : Nat) (exponent : Int)
    (accuracy : Accuracy) : HasSign sign
      (UnpackedFloat.roundWithAccuracy .binary64 sign significand exponent accuracy) := by
  obtain ⟨_, zero⟩ | ⟨_, finite⟩ := roundWithAccuracy_cases sign significand exponent accuracy
  · rw [zero]
    rfl
  · rw [finite]
    rfl

/-- How a finite double is packed: as an infinity, or with or without an exponent. -/
theorem pack_finite (sign : Sign) {significand : Nat} (exponent : Int)
    (positive : 0 < significand) :
    UnpackedFloat.pack .binary64 (.finite sign significand exponent positive) =
      if 2048 ≤ (exponent + 1023 + 52).toNat + 1 then UnpackedFloat.packedInfinity .binary64 sign
      else if significand.log2 + 1 = 53 then
        UnpackedFloat.packComponents .binary64 sign (.ofNat 11 (exponent + 1023 + 52).toNat)
          (.ofNat 52 significand)
      else UnpackedFloat.packComponents .binary64 sign 0 (.ofNat 52 significand) :=
  rfl

/-! ### Signs of results -/

namespace HasSign

variable {sign otherSign : Sign} {one other : UnpackedFloat}

theorem mul (first : HasSign sign one) (second : HasSign otherSign other) :
    HasSign (sign * otherSign) (one.mul .binary64 other) := by
  cases one <;> cases other <;> cases first <;> cases second
  case finite.finite => exact hasSign_roundWithAccuracy ..
  all_goals first | rfl | trivial

/-- A root has no minus sign, unless it is that of minus zero. -/
theorem sqrt (nonzero : one ≠ .zero .negative) : HasSign .positive (one.sqrt .binary64) := by
  cases one with
  | notANumber => trivial
  | infinity sign => cases sign <;> trivial
  | zero sign =>
    cases sign with
    | positive => rfl
    | negative => exact (nonzero rfl).elim
  | finite sign =>
    cases sign with
    | positive => exact hasSign_roundWithAccuracy ..
    | negative => trivial

theorem msb_packComponents (sign : Sign) (exponent : BitVec 11) (fraction : BitVec 52) :
    (UnpackedFloat.packComponents .binary64 sign exponent fraction).msb = sign.toBitVec.msb := by
  rw [UnpackedFloat.packComponents, BitVec.msb_append, BitVec.msb_append]
  rfl

/-- What has no minus sign is packed without one. -/
theorem isPlus (plus : HasSign .positive one) : IsPlus (.ofModel (.pack one)) := by
  have first : (UnpackedFloat.pack .binary64 one).msb = false := by
    cases one with
    | notANumber => decide
    | infinity sign => cases plus; decide
    | zero sign => cases plus; decide
    | finite sign =>
      cases plus
      rw [pack_finite]
      split
      · decide
      · split <;> exact msb_packComponents ..
  have bound := BitVec.msb_eq_false_iff_two_mul_lt.mp first
  change _ < 2 ^ 64 at bound
  show (UnpackedFloat.pack .binary64 one).toNat < 2 ^ 63
  omega

end HasSign

theorem IsPlus.hasSign {number : Float} (plus : IsPlus number) :
    HasSign .positive number.toModel.unpack := by
  have sign := hasSign_unpack number.toBits.toBitVec
  rwa [if_pos (show number.toBits.toBitVec.toNat < 2 ^ 63 from plus)] at sign

theorem IsPlus.mul {one other : Float} (first : IsPlus one) (second : IsPlus other) :
    IsPlus (one * other) :=
  (first.hasSign.mul second.hasSign).isPlus

theorem isPlus_mul_self (number : Float) : IsPlus (number * number) := by
  obtain ⟨sign, own⟩ := exists_hasSign number.toModel.unpack
  have square := own.mul own
  rw [show sign * sign = .positive by cases sign <;> rfl] at square
  exact square.isPlus

/-! ## Part 2 — sums -/

/-- The significand and the exponent of a finite double are in range, but for overflow. -/
def Representable : UnpackedFloat → Prop
  | .finite _ significand exponent _ => significand < 2 ^ 53 ∧ -1074 ≤ exponent
  | _ => True

theorem representable_unpack (word : BitVec 64) :
    Representable (UnpackedFloat.unpack .binary64 word) := by
  cases defined : (UnpackedFloat.unpack .binary64 word).isNaN with
  | true =>
    rw [eq_notANumber defined]
    trivial
  | false =>
    have placed := placed_unpack defined
    generalize UnpackedFloat.unpack .binary64 word = number at placed ⊢
    generalize word.toNat % 2 ^ 63 = place at placed
    cases placed with
    | zero => trivial
    | infinity => trivial
    | finite _ size first => exact ⟨size, first⟩

/-! ### Rounded numbers -/

section Rounding

theorem le_roundToNearestEven (significand : Nat) (accuracy : Accuracy) :
    significand ≤ accuracy.roundToNearestEven significand := by
  rcases accuracy with _ | order
  · exact Nat.le_refl _
  · cases order with
    | lt => exact Nat.le_refl _
    | eq => exact Nat.le_add_right ..
    | gt => exact Nat.le_add_right ..

/-- **A shift leaves a significand in range**, and more than nothing of it. -/
theorem div_shiftOf {significand : Nat} (positive : 0 < significand) {exponent : Int}
    (first : -1074 ≤ exponent) : 0 < significand / 2 ^ shiftOf significand exponent ∧
      significand / 2 ^ shiftOf significand exponent < 2 ^ 53 := by
  have below := Nat.log2_self_le (Nat.ne_of_gt positive)
  have above := Nat.lt_log2_self (n := significand)
  have shift : significand.log2 + 1 ≤ 53 + shiftOf significand exponent ∧
      shiftOf significand exponent ≤ significand.log2 := by
    rw [shiftOf]
    omega
  refine ⟨Nat.div_pos ?_ (Nat.two_pow_pos _), (Nat.div_lt_iff_lt_mul (Nat.two_pow_pos _)).mpr ?_⟩
  · exact Nat.le_trans (Nat.pow_le_pow_right (by decide) shift.2) below
  · rw [← Nat.pow_add]
    exact Nat.lt_of_lt_of_le above (Nat.pow_le_pow_right (by decide) shift.1)

/-- **Rounding makes no zero** of a number that is none. -/
theorem representable_roundWithAccuracy (sign : Sign) {significand : Nat}
    (positive : 0 < significand) {exponent : Int} (first : -1074 ≤ exponent)
    (accuracy : Accuracy) :
    let rounded := UnpackedFloat.roundWithAccuracy .binary64 sign significand exponent accuracy
    Representable rounded ∧ rounded ≠ .zero .negative := by
  obtain ⟨some, _⟩ := div_shiftOf positive first
  have left : 0 < (ExtendedMantissa.ofMantissaAndAccuracy significand accuracy >>>
      shiftOf significand exponent).roundedMantissa := by
    rw [ExtendedMantissa.roundedMantissa, mantissa_shiftRight, mantissa_ofMantissaAndAccuracy]
    exact Nat.lt_of_lt_of_le some (le_roundToNearestEven ..)
  have later : -1074 ≤ exponent + shiftOf significand exponent := by omega
  obtain ⟨nonzero, size⟩ := div_shiftOf left later
  obtain ⟨none, _⟩ | ⟨_, finite⟩ := roundWithAccuracy_cases sign significand exponent accuracy
  · exact absurd none (Nat.ne_of_gt nonzero)
  · rw [finite]
    exact ⟨⟨size, by omega⟩, UnpackedFloat.noConfusion⟩

theorem representable_round (sign : Sign) {significand : Nat} (positive : 0 < significand)
    {exponent : Int} (first : -1074 ≤ exponent) :
    let rounded := UnpackedFloat.round .binary64 sign significand exponent
    Representable rounded ∧ rounded ≠ .zero .negative := by
  unfold UnpackedFloat.round UnpackedFloat.decreaseExponent
  refine representable_roundWithAccuracy sign ?_ ?_ .exact
  · rw [Nat.shiftLeft_eq]
    exact Nat.mul_pos positive (Nat.two_pow_pos _)
  · show -1074 ≤ exponent - (exponent - max _ (-1074)).toNat
    omega

theorem representable_normalize (significand : Int) {exponent : Int} (first : -1074 ≤ exponent) :
    let rounded := UnpackedFloat.normalize .binary64 significand exponent .positive
    Representable rounded ∧ rounded ≠ .zero .negative := by
  unfold UnpackedFloat.normalize
  split
  · rename_i below
    exact representable_round .negative (by have := Int.compare_eq_lt.mp below; omega) first
  · exact ⟨trivial, nofun⟩
  · rename_i above
    exact representable_round .positive (by have := Int.compare_eq_gt.mp above; omega) first

end Rounding

/-- **A sum is not minus zero** if one of its parts has no minus sign. -/
theorem representable_add {one other : UnpackedFloat} (plus : HasSign .positive one)
    (first : Representable one) (second : Representable other) :
    let sum := one.add .binary64 other
    Representable sum ∧ sum ≠ .zero .negative := by
  cases one <;> cases other <;> cases plus
  case finite.finite =>
    exact representable_normalize _ (Int.le_min.mpr ⟨first.2, second.2⟩)
  case zero.zero.refl sign => cases sign <;> exact ⟨trivial, nofun⟩
  case infinity.infinity.refl sign => cases sign <;> exact ⟨trivial, nofun⟩
  all_goals first | exact ⟨trivial, nofun⟩ | exact ⟨first, nofun⟩ | exact ⟨second, nofun⟩

section Packing

open Float.Model.UnpackedFloat (packedZero unpackExponent unpackMantissa
  unpackExponent_packComponents unpackMantissa_packComponents)

/-- A finite double is not packed to a zero: without an exponent it has a fraction. -/
theorem pack_finite_ne (sign zeroSign : Sign) {significand : Nat} {exponent : Int}
    (positive : 0 < significand) (size : significand < 2 ^ 53) (first : -1074 ≤ exponent) :
    UnpackedFloat.pack .binary64 (.finite sign significand exponent positive) ≠
      packedZero .binary64 zeroSign := by
  intro zero
  have noExponent := congrArg unpackExponent zero
  have noFraction := congrArg unpackMantissa zero
  rw [packedZero, unpackExponent_packComponents] at noExponent
  rw [packedZero, unpackMantissa_packComponents] at noFraction
  rw [pack_finite] at noExponent noFraction
  split at noExponent
  · rw [UnpackedFloat.packedInfinity, unpackExponent_packComponents] at noExponent
    exact absurd noExponent (by decide)
  · rename_i below
    split at noExponent
    · rw [unpackExponent_packComponents] at noExponent
      have biased := congrArg BitVec.toNat noExponent
      rw [BitVec.toNat_ofNat] at biased
      change _ = 0 at biased
      omega
    · rename_i subnormal
      rw [if_neg below, if_neg subnormal, unpackMantissa_packComponents] at noFraction
      have fraction := congrArg BitVec.toNat noFraction
      rw [BitVec.toNat_ofNat] at fraction
      change _ = 0 at fraction
      have highest := (Nat.log2_lt (Nat.ne_of_gt positive)).mpr size
      have small : significand < 2 ^ 52 :=
        (Nat.log2_lt (Nat.ne_of_gt positive)).mp (by omega)
      omega

/-- Only the bits of minus zero stand for it. -/
theorem eq_packedZero_of_unpack {word : BitVec 64}
    (zero : UnpackedFloat.unpack .binary64 word = .zero .negative) :
    word = packedZero .binary64 .negative := by
  have placed := placed_unpack (congrArg UnpackedFloat.isNaN zero)
  rw [zero] at placed
  generalize side : (if word.toNat < 2 ^ 63 then Sign.positive else .negative) = sign at placed
  generalize away : word.toNat % 2 ^ 63 = place at placed
  cases placed
  have minus : ¬ word.toNat < 2 ^ 63 := fun plus => by
    rw [if_pos plus] at side
    cases side
  have size : word.toNat < 2 ^ 64 := word.isLt
  exact BitVec.eq_of_toNat_eq (show word.toNat = 2 ^ 63 by omega)

/-- What is representable and not minus zero is not packed to minus zero. -/
theorem unpack_pack_ne {number : UnpackedFloat} (representable : Representable number)
    (nonzero : number ≠ .zero .negative) :
    (Float.Model.pack number).unpack ≠ .zero .negative := by
  intro zero
  have packed : UnpackedFloat.pack .binary64 number = packedZero .binary64 .negative :=
    eq_packedZero_of_unpack zero
  cases number with
  | notANumber => exact absurd packed (by decide)
  | infinity sign => cases sign <;> exact absurd packed (by decide)
  | zero sign =>
    cases sign with
    | negative => exact nonzero rfl
    | positive => exact absurd packed (by decide)
  | finite sign significand exponent positive =>
    exact pack_finite_ne sign .negative positive representable.1 representable.2 packed

end Packing

theorem unpack_add_ne {one : Float} (plus : IsPlus one) (other : Float) :
    (one + other).toModel.unpack ≠ .zero .negative := by
  obtain ⟨representable, nonzero⟩ := representable_add plus.hasSign
    (representable_unpack one.toBits.toBitVec) (representable_unpack other.toBits.toBitVec)
  exact unpack_pack_ne representable nonzero

/-! ## Part 3 — distances -/

/-- **The arcsine of a number without a minus sign has none.** -/
def ArcsineKeepsPlus : Prop :=
  ∀ number : Float, IsPlus number → IsPlus number.asin

/-- **A distance has no minus sign**, if the arcsine does as it should. -/
theorem isPlus_distance (arcsine : ArcsineKeepsPlus) (one other : Point) :
    IsPlus (one.distance other) := by
  have diameter : IsPlus (2.0 * earthRadiusInMeters) := by
    show _ < _
    decide +kernel
  exact diameter.mul (arcsine _ (HasSign.sqrt (unpack_add_ne (isPlus_mul_self _) _)).isPlus)

end SecondaryIndex
