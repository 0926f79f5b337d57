/-
**When two number formats write one text.**

A format that never writes an exponent and leaves whole numbers without a point is held against one
that ends whole numbers in a point and writes an exponent outside a range:

* `toList_positionalText_fraction` and `toList_positionalText_whole` — a text without an exponent is
  its digits around a point, or its digits and zeros;
* `positionalText_inj` — digits around a point tell which decimal they are;
* `ShortDecimal.value_lt_iff` — where a decimal begins, by its value;
* `Layout.decimal_eq_iff` — the texts agree only on a fraction in the range.
-/

import Mathlib.Data.List.Basic
import SecondaryIndex.Decimal.Layout
import SecondaryIndex.Proofs.Decimal.Shortest

namespace SecondaryIndex.Decimal

/-! ## Part 1 — texts without an exponent -/

/-- The number of digits before the point. -/
def ShortDecimal.point (decimal : ShortDecimal) : Int :=
  (Nat.repr decimal.digits).length + decimal.exponent

theorem length_repr (number : Nat) :
    (Nat.repr number).length = (Nat.toDigits 10 number).length := by
  rw [← String.length_toList, Nat.toList_repr]

theorem isDigit_of_mem_digits {number : Nat} {char : Char}
    (digit : char ∈ Nat.toDigits 10 number) : char.isDigit :=
  Nat.isDigit_of_mem_toDigits (by decide) (by decide) digit

theorem isDigit_of_mem_zeros {count : Nat} {char : Char}
    (zero : char ∈ List.replicate count '0') : char.isDigit := by
  rw [List.eq_of_mem_replicate zero]
  rfl

variable {decimal other : ShortDecimal} {wholeEnd : String}

/-- **Digits around a point**: as many behind it as the exponent says. -/
theorem toList_positionalText_fraction (fraction : decimal.exponent < 0) (wholeEnd : String) :
    ∃ before behind : List Char,
      (positionalText wholeEnd (Nat.repr decimal.digits) decimal.point).toList =
          before ++ '.' :: behind ∧
        (∀ char ∈ before, char.isDigit) ∧ (∀ char ∈ behind, char.isDigit) ∧
        (behind.length : Int) = -decimal.exponent ∧
        Nat.ofDigitChars 10 (before ++ behind) 0 = decimal.digits := by
  have pointEq : decimal.point = (Nat.toDigits 10 decimal.digits).length + decimal.exponent := by
    rw [ShortDecimal.point, length_repr]
  rw [positionalText]
  split
  · refine ⟨['0'], List.replicate (-decimal.point).toNat '0' ++ Nat.toDigits 10 decimal.digits,
      ?_, ?_, ?_, ?_, ?_⟩
    · simp only [zeros, String.toList_append, String.toList_ofList, Nat.toList_repr]
      rfl
    · intro char zero
      rw [List.mem_singleton.mp zero]
      rfl
    · intro char listed
      rcases List.mem_append.mp listed with zero | digit
      · exact isDigit_of_mem_zeros zero
      · exact isDigit_of_mem_digits digit
    · rw [List.length_append, List.length_replicate]
      omega
    · rw [← List.append_assoc, Nat.ofDigitChars_append, List.singleton_append,
        ← List.replicate_succ, Nat.ofDigitChars_replicate_zero, mul_zero,
        Nat.ofDigitChars_ten_toDigits]
  · rw [if_neg (by rw [length_repr]; omega)]
    refine ⟨(Nat.toDigits 10 decimal.digits).take decimal.point.toNat,
      (Nat.toDigits 10 decimal.digits).drop decimal.point.toNat, ?_, ?_, ?_, ?_, ?_⟩
    · simp only [String.toList_append, String.toList_ofList, Nat.toList_repr, List.append_assoc]
      rfl
    · exact fun char taken => isDigit_of_mem_digits (List.mem_of_mem_take taken)
    · exact fun char left => isDigit_of_mem_digits (List.mem_of_mem_drop left)
    · rw [List.length_drop]
      omega
    · rw [List.take_append_drop, Nat.ofDigitChars_ten_toDigits]

/-- Digits and zeros, and what a whole number ends in. -/
theorem toList_positionalText_whole (natural : 0 ≤ decimal.exponent) (wholeEnd : String) :
    (positionalText wholeEnd (Nat.repr decimal.digits) decimal.point).toList =
      Nat.toDigits 10 decimal.digits ++ List.replicate decimal.exponent.toNat '0' ++
        wholeEnd.toList := by
  have some : 0 < (Nat.repr decimal.digits).length := Nat.length_repr_pos
  rw [positionalText, ShortDecimal.point, if_neg (by omega), if_pos (by omega), zeros,
    String.toList_append, String.toList_append, String.toList_ofList, Nat.toList_repr,
    show ((Nat.repr decimal.digits).length + decimal.exponent).toNat -
      (Nat.repr decimal.digits).length = decimal.exponent.toNat by omega]

/-- Without a mark there are only digits in a whole number. -/
theorem isDigit_of_mem_whole (natural : 0 ≤ decimal.exponent) :
    ∀ char ∈ (positionalText "" (Nat.repr decimal.digits) decimal.point).toList,
      char.isDigit := by
  intro char listed
  rw [toList_positionalText_whole natural, List.mem_append, List.mem_append] at listed
  rcases listed with (digit | zero) | none
  · exact isDigit_of_mem_digits digit
  · exact isDigit_of_mem_zeros zero
  · exact absurd none List.not_mem_nil

theorem notMem_of_digits {chars : List Char} (digits : ∀ char ∈ chars, char.isDigit) {char : Char}
    (other : char.isDigit = false) : char ∉ chars :=
  fun listed => Bool.false_ne_true (other.symm.trans (digits char listed))

/-- **Digits around a point tell which decimal they are.** -/
theorem positionalText_inj (fraction : decimal.exponent < 0) (otherFraction : other.exponent < 0)
    {otherEnd : String}
    (same : positionalText wholeEnd (Nat.repr decimal.digits) decimal.point =
      positionalText otherEnd (Nat.repr other.digits) other.point) :
    decimal = other := by
  obtain ⟨before, behind, text, whole, last, places, digits⟩ :=
    toList_positionalText_fraction fraction wholeEnd
  obtain ⟨otherBefore, otherBehind, otherText, -, -, otherPlaces, otherDigits⟩ :=
    toList_positionalText_fraction otherFraction otherEnd
  rw [← same, text] at otherText
  rw [List.append_cons_inj_of_notMem (notMem_of_digits whole rfl) (notMem_of_digits last rfl)]
    at otherText
  obtain ⟨sameBefore, -, sameBehind⟩ := otherText
  rw [sameBefore, sameBehind, otherDigits] at digits
  rw [sameBehind, otherPlaces] at places
  cases decimal
  cases other
  simp only at digits places
  rw [ShortDecimal.mk.injEq]
  exact ⟨digits.symm, by omega⟩

/-- A fraction is spelled alike whatever whole numbers end in. -/
theorem positionalText_congr (fraction : decimal.exponent < 0) (wholeEnd otherEnd : String) :
    positionalText wholeEnd (Nat.repr decimal.digits) decimal.point =
      positionalText otherEnd (Nat.repr decimal.digits) decimal.point := by
  have inside : ¬ (Nat.repr decimal.digits).length ≤ decimal.point.toNat ∨ decimal.point ≤ 0 := by
    rw [ShortDecimal.point]
    omega
  rw [positionalText, positionalText]
  split
  · rfl
  · rename_i after
    rw [if_neg (inside.resolve_right after), if_neg (inside.resolve_right after)]

/-- A text without an exponent, and without a mark on whole numbers, has no letter. -/
theorem notMem_positionalText {char : Char} (letter : char.isDigit = false) (unlike : char ≠ '.') :
    char ∉ (positionalText "" (Nat.repr decimal.digits) decimal.point).toList := by
  rcases lt_or_ge decimal.exponent 0 with fraction | natural
  · obtain ⟨before, behind, text, whole, last, -⟩ := toList_positionalText_fraction fraction ""
    rw [text, List.mem_append, List.mem_cons]
    rintro (listed | rfl | listed)
    · exact notMem_of_digits whole letter listed
    · exact unlike rfl
    · exact notMem_of_digits last letter listed
  · exact notMem_of_digits (isDigit_of_mem_whole natural) letter

/-! ## Part 2 — where a decimal begins -/

/-- **The digits before the point by the value**; a negative number counts zeros behind it. -/
theorem ShortDecimal.value_lt_iff (positive : 0 < decimal.digits) (place : Int) :
    decimal.value < 10 ^ place ↔ decimal.point ≤ place := by
  have some : 0 < (Nat.repr decimal.digits).length := Nat.length_repr_pos
  have tenPos : (0 : ℚ) < 10 ^ decimal.exponent := by positivity
  have scaled : decimal.value < 10 ^ place ↔
      (decimal.digits : ℚ) < 10 ^ (place - decimal.exponent) := by
    rw [value, zpow_sub₀ (by norm_num), lt_div_iff₀ tenPos]
  rw [scaled, point]
  rcases le_or_gt (place - decimal.exponent) 0 with low | high
  · have least : (10 : ℚ) ^ (place - decimal.exponent) ≤ decimal.digits :=
      (zpow_le_one_of_nonpos₀ (by norm_num) low).trans (by exact_mod_cast positive)
    exact iff_of_false (not_lt.mpr least) (by omega)
  · obtain ⟨count, countEq⟩ := Int.eq_ofNat_of_zero_le high.le
    rw [countEq, zpow_natCast]
    have length := @Nat.length_repr_le_iff decimal.digits count (by omega)
    rw [show ((decimal.digits : ℚ) < 10 ^ count) ↔ decimal.digits < 10 ^ count by norm_cast,
      ← length]
    omega

/-! ## Part 3 — two formats -/

namespace Layout

theorem mem_scientificText (exponentSign digits : String) (point : Int) :
    'e' ∈ (scientificText exponentSign digits point).toList := by
  simp only [scientificText, String.toList_append, List.mem_append]
  exact .inl (.inl (.inr (List.mem_singleton.mpr rfl)))

/-- **Two formats write one text** only for one decimal, which has a fraction and begins in the
range that needs no exponent. -/
theorem decimal_eq_iff {plain marked : Layout} {least greatest : Int}
    (bare : plain.positional = none) (unmarked : plain.wholeEnd = "")
    (ranged : marked.positional = some (least, greatest)) (mark : '.' ∈ marked.wholeEnd.toList)
    (alike : 0 ≤ decimal.exponent ↔ 0 ≤ other.exponent) :
    plain.decimal decimal = marked.decimal other ↔
      decimal = other ∧ other.exponent < 0 ∧ least ≤ other.point ∧ other.point ≤ greatest := by
  have plainEq : plain.decimal decimal =
      positionalText "" (Nat.repr decimal.digits) decimal.point := by
    simp only [Layout.decimal, bare, unmarked]
    rfl
  have markedEq : marked.decimal other =
      if least ≤ other.point ∧ other.point ≤ greatest then
        positionalText marked.wholeEnd (Nat.repr other.digits) other.point
      else scientificText marked.exponentSign (Nat.repr other.digits) other.point := by
    simp only [Layout.decimal, ranged]
    rfl
  rw [plainEq, markedEq]
  by_cases inside : least ≤ other.point ∧ other.point ≤ greatest
  · rw [if_pos inside]
    by_cases natural : 0 ≤ other.exponent
    · have pointed : '.' ∈ (positionalText marked.wholeEnd (Nat.repr other.digits)
          other.point).toList := by
        rw [toList_positionalText_whole natural]
        exact List.mem_append_right _ mark
      refine iff_of_false (fun same => ?_) fun agree => absurd natural (not_le.mpr agree.2.1)
      rw [← same] at pointed
      exact notMem_of_digits (isDigit_of_mem_whole (alike.mpr natural)) rfl pointed
    · have fraction := not_le.mp natural
      constructor
      · exact fun same => ⟨positionalText_inj (not_le.mp (mt alike.mp natural)) fraction same,
          fraction, inside⟩
      · rintro ⟨rfl, -⟩
        exact positionalText_congr fraction _ _
  · rw [if_neg inside]
    refine iff_of_false (fun same => ?_) fun agree => inside agree.2.2
    have letter := mem_scientificText marked.exponentSign (Nat.repr other.digits) other.point
    rw [← same] at letter
    exact notMem_positionalText rfl (by decide) letter

end Layout

end SecondaryIndex.Decimal
