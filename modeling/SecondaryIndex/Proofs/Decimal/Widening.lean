/-
**Every finite single is also a double.**

* `cases_of_decode` and `proper_of_decode` — what the parts of a finite number can be;
* `SameNumber` — two finite numbers, of whatever widths, have one sign and one value;
* `exists_double_of_finite` — a finite single is the same number as some double.
-/

import Mathlib.Tactic.NormNum
import SecondaryIndex.Proofs.Decimal.Shortest

namespace SecondaryIndex.Decimal

/-! ## Part 1 — the parts of a finite number -/

section Parts

variable {format : BinaryFormat} {bits significand : Nat} {negative narrowBelow : Bool}
  {exponent : Int}

/-- A finite number is subnormal, or its significand has the hidden digit. -/
theorem cases_of_decode
    (decoded : format.decode bits = .finite negative significand exponent narrowBelow) :
    (significand < 2 ^ format.fractionBits ∧ narrowBelow = false ∧
        exponent = 1 - (((2 ^ format.exponentBits : Nat) : Int) / 2 - 1 + format.fractionBits)) ∨
      (2 ^ format.fractionBits ≤ significand ∧ significand < 2 * 2 ^ format.fractionBits ∧
        (narrowBelow = true → significand = 2 ^ format.fractionBits) ∧
        1 - (((2 ^ format.exponentBits : Nat) : Int) / 2 - 1 + format.fractionBits) ≤ exponent ∧
        exponent < ((2 ^ format.exponentBits : Nat) : Int) - 1 -
          (((2 ^ format.exponentBits : Nat) : Int) / 2 - 1 + format.fractionBits)) := by
  have fraction : bits % 2 ^ format.fractionBits < 2 ^ format.fractionBits :=
    Nat.mod_lt _ (by positivity)
  have biased : bits / 2 ^ format.fractionBits % 2 ^ format.exponentBits <
      2 ^ format.exponentBits := Nat.mod_lt _ (by positivity)
  simp only [BinaryFormat.decode, Nat.pow_eq] at decoded
  split at decoded
  · split at decoded <;> cases decoded
  · rename_i notLast
    split at decoded
    · rw [Decoded.finite.injEq] at decoded
      obtain ⟨-, rfl, rfl, rfl⟩ := decoded
      exact .inl ⟨fraction, rfl, rfl⟩
    · rename_i notFirst
      rw [Decoded.finite.injEq] at decoded
      obtain ⟨-, rfl, rfl, rfl⟩ := decoded
      have first : 1 ≤ bits / 2 ^ format.fractionBits % 2 ^ format.exponentBits := by omega
      have last : bits / 2 ^ format.fractionBits % 2 ^ format.exponentBits + 1 <
          2 ^ format.exponentBits := by omega
      refine .inr ⟨Nat.le_add_right _ _, by omega, ?_, sub_le_sub_right (by exact_mod_cast first) _,
        sub_lt_sub_right (lt_sub_iff_add_lt.mpr (by exact_mod_cast last)) _⟩
      intro narrow
      have none := of_decide_eq_true ((Bool.and_eq_true _ _).mp narrow).1
      rw [none, add_zero]

/-- **A finite number other than zero** has a significand that the search for a decimal can take. -/
theorem proper_of_decode (size : format.fractionBits ≤ 52)
    (decoded : format.decode bits = .finite negative significand exponent narrowBelow)
    (nonzero : significand ≠ 0) : Proper significand narrowBelow := by
  have hidden : 2 ^ format.fractionBits ≤ 2 ^ 52 := Nat.pow_le_pow_right (by decide) size
  rcases cases_of_decode decoded with ⟨below, wide, -⟩ | ⟨-, below, narrow, -⟩
  · exact ⟨Nat.pos_of_ne_zero nonzero, by omega, by rw [wide]; exact nofun⟩
  · exact ⟨Nat.pos_of_ne_zero nonzero, by omega, fun near => (narrow near).trans_le hidden⟩

end Parts

/-! ## Part 2 — the wider form -/

/-- The number is neither an infinity nor undefined. -/
def Decoded.IsFinite : Decoded → Prop
  | .finite .. => True
  | _ => False

/-- Two finite numbers, of whatever widths, with one sign and one value. -/
def SameNumber : Decoded → Decoded → Prop
  | .finite negative significand exponent _, .finite otherNegative other otherExponent _ =>
    negative = otherNegative ∧ magnitude significand exponent = magnitude other otherExponent
  | _, _ => False

theorem Decoded.IsFinite.exists_parts {number : Decoded} (finite : number.IsFinite) :
    ∃ negative significand exponent narrowBelow,
      number = .finite negative significand exponent narrowBelow := by
  cases number with
  | undefined => exact finite.elim
  | infinite negative => exact finite.elim
  | finite negative significand exponent narrowBelow => exact ⟨_, _, _, _, rfl⟩

theorem SameNumber.refl {number : Decoded} (finite : number.IsFinite) :
    SameNumber number number := by
  obtain ⟨negative, significand, exponent, narrowBelow, rfl⟩ := finite.exists_parts
  exact ⟨rfl, rfl⟩

theorem SameNumber.exists_parts {first second : Decoded} (same : SameNumber first second) :
    ∃ negative significand exponent narrowBelow wide wideExponent wideNarrow,
      first = .finite negative significand exponent narrowBelow ∧
        second = .finite negative wide wideExponent wideNarrow ∧
        magnitude significand exponent = magnitude wide wideExponent := by
  cases first with
  | undefined => exact same.elim
  | infinite negative => exact same.elim
  | finite negative significand exponent narrowBelow =>
    cases second with
    | undefined => exact same.elim
    | infinite negative => exact same.elim
    | finite wideNegative wide wideExponent wideNarrow =>
      obtain ⟨rfl, equal⟩ := same
      exact ⟨_, _, _, _, _, _, _, rfl, rfl, equal⟩

/-- Bits whose exponent is not the last one are those of some double. -/
theorem exists_double_of_bits {bits : Nat} (size : bits < 2 ^ 64)
    (finite : bits / 2 ^ 52 % 2 ^ 11 ≠ 2047) :
    ∃ double : Float, Decoded.ofFloat double = binary64.decode bits := by
  have valid : Float.Model.Format.binary64.Valid (UInt64.ofNat bits).toBitVec := by
    refine ⟨fun last => absurd ?_ finite⟩
    have number : (bits % 2 ^ 64) >>> 52 % 2 ^ 11 = 2047 := by
      simpa [Float.Model.UnpackedFloat.unpackExponent] using congrArg BitVec.toNat last
    rwa [Nat.mod_eq_of_lt size, Nat.shiftRight_eq_div_pow] at number
  refine ⟨.ofModel ⟨.ofNat bits, valid⟩, ?_⟩
  show binary64.decode (UInt64.ofNat bits).toNat = _
  rw [UInt64.toNat_ofNat_of_lt' size]

/-- A double with any sign, any fraction and any exponent but the first and the last. -/
theorem exists_double_of_fields (negative : Bool) {place fraction : Nat} (first : 0 < place)
    (last : place < 2047) (size : fraction < 2 ^ 52) :
    ∃ double : Float, Decoded.ofFloat double =
      .finite negative (2 ^ 52 + fraction) (place - 1075) (fraction = 0 && place > 1) := by
  generalize bitsEq : negative.toNat * 2 ^ 63 + (place * 2 ^ 52 + fraction) = bits
  have bound := negative.toNat_le
  have low : bits % Nat.pow 2 52 = fraction := by
    show bits % 4503599627370496 = fraction
    omega
  have middle : bits / Nat.pow 2 52 % Nat.pow 2 11 = place := by
    show bits / 4503599627370496 % 2048 = place
    omega
  have high : bits / (Nat.pow 2 52 * Nat.pow 2 11) % 2 = negative.toNat := by
    show bits / 9223372036854775808 % 2 = negative.toNat
    omega
  obtain ⟨double, parts⟩ := @exists_double_of_bits bits (by omega) (by
    rw [← Nat.pow_eq, ← Nat.pow_eq, middle]
    omega)
  refine ⟨double, parts.trans ?_⟩
  simp only [BinaryFormat.decode, binary64, low, middle, high]
  rw [if_neg (by show place ≠ 2047; omega), if_neg (by omega), Decoded.finite.injEq]
  refine ⟨?_, rfl, rfl, rfl⟩
  cases negative <;> rfl

/-- A double with any number of at most 53 binary digits that is not too small and not too great;
its significand is moved up to 53 digits. -/
theorem exists_double (negative : Bool) {significand : Nat} {exponent : Int}
    (size : significand < 2 ^ 53) (least : -1000 ≤ exponent) (greatest : exponent ≤ 900) :
    ∃ double wide wideExponent narrowBelow,
      Decoded.ofFloat double = .finite negative wide wideExponent narrowBelow ∧
        magnitude wide wideExponent = magnitude significand exponent := by
  by_cases zero : significand = 0
  · obtain ⟨double, parts⟩ := @exists_double_of_bits (negative.toNat * 2 ^ 63)
      (by cases negative <;> decide) (by cases negative <;> decide)
    refine ⟨double, 0, -1074, false, ?_, by simp [magnitude, zero]⟩
    cases negative <;> exact parts
  · have bound : significand.log2 < 53 := (Nat.log2_lt zero).mpr size
    obtain ⟨shift, shiftEq⟩ : ∃ shift, significand.log2 + shift = 52 :=
      ⟨52 - significand.log2, by omega⟩
    have lower : 2 ^ 52 ≤ significand * 2 ^ shift := by
      rw [← shiftEq, pow_add]
      exact Nat.mul_le_mul_right _ (Nat.log2_self_le zero)
    have upper : significand * 2 ^ shift < 2 ^ 52 + 2 ^ 52 := by
      rw [← two_mul, ← shiftEq, pow_add, ← mul_assoc, ← pow_succ']
      exact Nat.mul_lt_mul_of_pos_right Nat.lt_log2_self (by positivity)
    obtain ⟨double, parts⟩ := @exists_double_of_fields negative
      (exponent - shift + 1075).toNat (significand * 2 ^ shift - 2 ^ 52) (by omega) (by omega)
      (by omega)
    refine ⟨double, _, _, _, parts, ?_⟩
    rw [Nat.add_sub_cancel' lower, Int.toNat_of_nonneg (by omega), add_sub_cancel_right, magnitude,
      magnitude, zpow_sub₀ two_ne_zero, zpow_natCast]
    push_cast
    field_simp

/-- **Every finite single is also a double.** -/
theorem exists_double_of_finite {number : Float32} (finite : (Decoded.ofFloat32 number).IsFinite) :
    ∃ double : Float, SameNumber (Decoded.ofFloat32 number) (Decoded.ofFloat double) := by
  obtain ⟨negative, significand, exponent, narrowBelow, finite⟩ := finite.exists_parts
  have bounds : significand < 2 ^ 24 ∧ -149 ≤ exponent ∧ exponent ≤ 104 := by
    rw [Decoded.ofFloat32] at finite
    rcases cases_of_decode finite with ⟨below, -, place⟩ | ⟨-, below, -, least, greatest⟩
    · norm_num [binary32] at below place
      omega
    · norm_num [binary32] at below least greatest
      omega
  obtain ⟨double, wide, wideExponent, wideNarrow, parts, same⟩ :=
    @exists_double negative significand exponent (by omega) (by omega) (by omega)
  exact ⟨double, by rw [finite, parts]; exact ⟨rfl, same.symm⟩⟩

end SecondaryIndex.Decimal
