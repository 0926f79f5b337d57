/-
**When the shortest decimal of a binary number has a fraction.**

The integer arithmetic of the search is read as arithmetic of rational numbers: an interval around
`significand * 2 ^ exponent`, and decimal grids that get finer with each digit.

* `Interval.mem_of_contains` and `Interval.contains_of_between` — the test of a candidate is that
  its value lies in the interval;
* `Interval.onGrid_whole_ne_none` and `Interval.onGrid_maxDigits_ne_none` — the grid of the whole
  numbers hits each of them, and seventeen digits are always enough;
* `shortest_value_mem` — the shortest decimal is at most half a step away from the number;
* `shortest_exponent_nonneg_iff` — it has no fraction exactly if the number is whole.
-/

import Mathlib.Algebra.Order.Field.Power
import Mathlib.Tactic.FieldSimp
import Mathlib.Tactic.Linarith
import Mathlib.Tactic.Positivity
import Mathlib.Tactic.Ring
import SecondaryIndex.Decimal.Shortest

namespace SecondaryIndex.Decimal

/-! ## Part 1 — the interval in rational numbers -/

/-- The value of a decimal. -/
def ShortDecimal.value (decimal : ShortDecimal) : ℚ :=
  decimal.digits * 10 ^ decimal.exponent

/-- The value of a binary number. -/
def magnitude (significand : Nat) (exponent : Int) : ℚ :=
  significand * 2 ^ exponent

theorem zpow_eq_div (base : ℚ) (exponent : Int) :
    base ^ exponent = base ^ exponent.toNat / base ^ (-exponent).toNat := by
  cases exponent with
  | ofNat size => simp
  | negSucc size => simp [zpow_negSucc, Int.neg_negSucc]

/-- The next decimal of a grid is a step away. -/
theorem ShortDecimal.value_succ (digits : Nat) (exponent : Int) :
    (ShortDecimal.mk (digits + 1) exponent).value =
      (ShortDecimal.mk digits exponent).value + 10 ^ exponent := by
  rw [value, value]
  push_cast
  ring

theorem ShortDecimal.value_eq_div (digits : Nat) (exponent : Int) :
    (ShortDecimal.mk digits exponent).value =
      digits * 10 ^ exponent.toNat / 10 ^ (-exponent).toNat := by
  rw [value, zpow_eq_div, mul_div_assoc]

namespace Interval

variable {interval : Interval} {digits numerator : Nat} {exponent : Int}

/-- A numerator of the interval as a number. -/
def real (interval : Interval) (numerator : Nat) : ℚ :=
  numerator / interval.unit

/-- Both sides of a test as fractions of one denominator. -/
theorem exists_common (unit : 0 < interval.unit) (numerator digits : Nat) (exponent : Int) :
    ∃ denominator : ℚ, 0 < denominator ∧
      interval.real numerator =
        (numerator * Nat.pow 10 (-exponent).toNat : Nat) / denominator ∧
      (ShortDecimal.mk digits exponent).value =
        (digits * interval.unit * Nat.pow 10 exponent.toNat : Nat) / denominator := by
  have unitPos : (0 : ℚ) < interval.unit := by exact_mod_cast unit
  refine ⟨interval.unit * 10 ^ (-exponent).toNat, by positivity, ?_, ?_⟩
  · rw [real]
    push_cast [Nat.pow_eq]
    field_simp
  · rw [ShortDecimal.value_eq_div]
    push_cast [Nat.pow_eq]
    field_simp

theorem real_le_value_iff (unit : 0 < interval.unit) :
    interval.real numerator ≤ (ShortDecimal.mk digits exponent).value ↔
      numerator * Nat.pow 10 (-exponent).toNat ≤
        digits * interval.unit * Nat.pow 10 exponent.toNat := by
  obtain ⟨denominator, positive, left, right⟩ := exists_common unit numerator digits exponent
  rw [left, right, div_le_div_iff_of_pos_right positive, Nat.cast_le]

theorem value_le_real_iff (unit : 0 < interval.unit) :
    (ShortDecimal.mk digits exponent).value ≤ interval.real numerator ↔
      digits * interval.unit * Nat.pow 10 exponent.toNat ≤
        numerator * Nat.pow 10 (-exponent).toNat := by
  obtain ⟨denominator, positive, left, right⟩ := exists_common unit numerator digits exponent
  rw [left, right, div_le_div_iff_of_pos_right positive, Nat.cast_le]

/-- **A candidate that passes the test lies in the interval.** -/
theorem mem_of_contains (unit : 0 < interval.unit)
    (passes : interval.contains digits exponent = true) :
    interval.real interval.lower ≤ (ShortDecimal.mk digits exponent).value ∧
      (ShortDecimal.mk digits exponent).value ≤ interval.real interval.upper := by
  rw [real_le_value_iff unit, value_le_real_iff unit]
  rw [contains] at passes
  split at passes
  · simpa using passes
  · have strict := (Bool.and_eq_true _ _).mp passes
    exact ⟨(of_decide_eq_true strict.1).le, (of_decide_eq_true strict.2).le⟩

/-- A candidate inside the interval passes the test, whether the ends belong to it or not. -/
theorem contains_of_between (unit : 0 < interval.unit)
    (above : interval.real interval.lower < (ShortDecimal.mk digits exponent).value)
    (below : (ShortDecimal.mk digits exponent).value < interval.real interval.upper) :
    interval.contains digits exponent = true := by
  rw [← not_le, value_le_real_iff unit, not_le] at above
  rw [← not_le, real_le_value_iff unit, not_le] at below
  rw [contains]
  split
  · exact (Bool.and_eq_true _ _).mpr ⟨decide_eq_true above.le, decide_eq_true below.le⟩
  · exact (Bool.and_eq_true _ _).mpr ⟨decide_eq_true above, decide_eq_true below⟩

/-! ### The interval around a binary number -/

variable {significand : Nat} {narrowBelow : Bool}

theorem unit_around_pos (significand : Nat) (exponent : Int) (narrowBelow : Bool) :
    0 < (around significand exponent narrowBelow).unit :=
  Nat.pow_pos (by decide)

/-- How far the interval reaches below the number, in units of the last place. -/
def gap (narrowBelow : Bool) : ℚ :=
  if narrowBelow then 1 / 4 else 1 / 2

theorem gap_pos (narrowBelow : Bool) : 0 < gap narrowBelow := by
  cases narrowBelow <;> norm_num [gap]

theorem gap_le (narrowBelow : Bool) : gap narrowBelow ≤ 1 / 2 := by
  cases narrowBelow <;> norm_num [gap]

theorem real_around (numerator : Nat) :
    (around significand exponent narrowBelow).real
        (numerator * Nat.pow 2 (exponent - 2).toNat) =
      numerator / 4 * 2 ^ exponent := by
  have split := zpow_eq_div 2 (exponent - 2)
  rw [zpow_sub₀ two_ne_zero, neg_sub] at split
  have power : (2 : ℚ) ^ exponent = 4 * (2 ^ (exponent - 2).toNat / 2 ^ (2 - exponent).toNat) := by
    rw [← split]
    norm_num
    ring
  rw [real, power, around]
  push_cast [Nat.pow_eq]
  ring

theorem real_value_around :
    (around significand exponent narrowBelow).real (around significand exponent narrowBelow).value =
      magnitude significand exponent := by
  rw [magnitude, show (around significand exponent narrowBelow).value =
    4 * significand * Nat.pow 2 (exponent - 2).toNat from rfl, real_around]
  push_cast
  ring

theorem real_upper_around :
    (around significand exponent narrowBelow).real (around significand exponent narrowBelow).upper =
      magnitude significand exponent + 1 / 2 * 2 ^ exponent := by
  rw [magnitude, show (around significand exponent narrowBelow).upper =
    (4 * significand + 2) * Nat.pow 2 (exponent - 2).toNat from rfl, real_around]
  push_cast
  ring

theorem real_lower_around (positive : 0 < significand) :
    (around significand exponent narrowBelow).real (around significand exponent narrowBelow).lower =
      magnitude significand exponent - gap narrowBelow * 2 ^ exponent := by
  rw [magnitude, show (around significand exponent narrowBelow).lower =
    (4 * significand - if narrowBelow then 1 else 2) * Nat.pow 2 (exponent - 2).toNat from rfl,
    real_around, gap]
  cases narrowBelow with
  | true =>
    rw [if_pos rfl, if_pos rfl, Nat.cast_sub (by omega)]
    push_cast
    ring
  | false =>
    rw [if_neg Bool.false_ne_true, if_neg Bool.false_ne_true, Nat.cast_sub (by omega)]
    push_cast
    ring

/-! ## Part 2 — the neighbours of a number on a grid -/

theorem ten_pow_le_of_pos {number : Nat} (positive : 0 < number) :
    10 ^ ((Nat.repr number).length - 1) ≤ number := by
  by_contra below
  by_cases single : (Nat.repr number).length = 1
  · rw [single] at below
    exact below positive
  · have some : 0 < (Nat.repr number).length := Nat.length_repr_pos
    have shorter := (Nat.length_repr_le_iff (by omega)).mpr (not_le.mp below)
    omega

/-- **The first digit of a number stands where `pointPosition` says.** -/
theorem ten_zpow_pointPosition_le (unit : 0 < interval.unit) (positive : 0 < interval.value) :
    (10 : ℚ) ^ (interval.pointPosition - 1) ≤ interval.real interval.value := by
  have unitPos : (0 : ℚ) < interval.unit := by exact_mod_cast unit
  rw [real, le_div_iff₀ unitPos, pointPosition]
  split
  · rename_i reached
    have lead := ten_pow_le_of_pos (Nat.div_pos reached unit)
    rw [Nat.le_div_iff_mul_le unit] at lead
    have some : 0 < (Nat.repr (interval.value / interval.unit)).length := Nat.length_repr_pos
    rw [show ((Nat.repr (interval.value / interval.unit)).length : Int) - 1 =
      ((Nat.repr (interval.value / interval.unit)).length - 1 : Nat) by omega, zpow_natCast]
    exact_mod_cast lead
  · have lead : (interval.unit - 1) / interval.value <
        10 ^ (Nat.repr ((interval.unit - 1) / interval.value)).length :=
      (Nat.length_repr_le_iff Nat.length_repr_pos).mp le_rfl
    rw [Nat.div_lt_iff_lt_mul positive] at lead
    rw [sub_sub_cancel_left, zpow_neg, zpow_natCast, inv_mul_le_iff₀ (by positivity)]
    have reached : interval.unit ≤
        10 ^ (Nat.repr ((interval.unit - 1) / interval.value)).length * interval.value := by omega
    exact_mod_cast reached

/-- The greatest number of steps of a grid that a value reaches. -/
def floor (interval : Interval) (exponent : Int) : Nat :=
  interval.value * Nat.pow 10 (-exponent).toNat / (interval.unit * Nat.pow 10 exponent.toNat)

theorem floor_le (unit : 0 < interval.unit) (exponent : Int) :
    (ShortDecimal.mk (interval.floor exponent) exponent).value ≤ interval.real interval.value := by
  rw [value_le_real_iff unit, mul_assoc]
  exact Nat.div_mul_le_self _ _

theorem lt_floor_succ (unit : 0 < interval.unit) (exponent : Int) :
    interval.real interval.value <
      (ShortDecimal.mk (interval.floor exponent + 1) exponent).value := by
  have step : 0 < interval.unit * Nat.pow 10 exponent.toNat :=
    Nat.mul_pos unit (Nat.pow_pos (by decide))
  rw [← not_le, value_le_real_iff unit, mul_assoc, not_le]
  exact (Nat.div_lt_iff_lt_mul step).mp (Nat.lt_succ_self _)

variable {tie : Tie} {point : Int} {count : Nat}

/-- A grid is hit if one of the two neighbours passes the test. -/
theorem onGrid_ne_none
    (hit : interval.contains (interval.floor (point - count)) (point - count) = true ∨
      interval.contains (interval.floor (point - count) + 1) (point - count) = true) :
    interval.onGrid tie point count ≠ none := by
  rw [floor] at hit
  rw [onGrid]
  split
  · rename_i below above
    rcases hit with hit | hit
    · exact absurd (below.symm.trans hit) Bool.false_ne_true
    · exact absurd (above.symm.trans hit) Bool.false_ne_true
  · exact Option.some_ne_none _
  · exact Option.some_ne_none _
  · repeat' split
    all_goals exact Option.some_ne_none _

/-- The hit on a grid passes the test. -/
theorem contains_of_onGrid {decimal : ShortDecimal}
    (hit : interval.onGrid tie point count = some decimal) :
    decimal.exponent = point - count ∧
      interval.contains decimal.digits decimal.exponent = true := by
  rw [onGrid] at hit
  split at hit
  · exact absurd hit.symm (Option.some_ne_none _)
  · cases hit
    exact ⟨rfl, ‹_›⟩
  · cases hit
    exact ⟨rfl, ‹_›⟩
  · repeat' split at hit
    all_goals
      cases hit
      exact ⟨rfl, ‹_›⟩

end Interval

/-! ## Part 3 — the search -/

/-- The significand of a number other than zero, of either width. -/
structure Proper (significand : Nat) (narrowBelow : Bool) : Prop where
  positive : 0 < significand
  bounded : significand < 2 ^ 53
  /-- The number below is nearer only at a power of two. -/
  narrow : narrowBelow = true → significand ≤ 2 ^ 52

/-- The number has no binary places behind the point. -/
def Whole (significand : Nat) (exponent : Int) : Prop :=
  2 ^ (-exponent).toNat ∣ significand

theorem Whole.exists_eq {significand : Nat} {exponent : Int} (whole : Whole significand exponent) :
    ∃ number : Nat, magnitude significand exponent = number := by
  obtain ⟨number, rfl⟩ := whole
  refine ⟨number * 2 ^ exponent.toNat, ?_⟩
  rw [magnitude, zpow_eq_div]
  push_cast
  field_simp

/-- A number less than a step away from a natural number is that number. -/
theorem Whole.of_near {significand number : Nat} {exponent : Int}
    (above : magnitude significand exponent - 1 / 2 * 2 ^ exponent ≤ number)
    (below : (number : ℚ) ≤ magnitude significand exponent + 1 / 2 * 2 ^ exponent) :
    Whole significand exponent := by
  rcases le_or_gt 0 exponent with natural | fractional
  · rw [Whole, Int.toNat_of_nonpos (by omega), pow_zero]
    exact one_dvd significand
  · obtain ⟨places, rfl⟩ : ∃ places : Nat, exponent = -places := ⟨exponent.natAbs, by omega⟩
    have placePos : (0 : ℚ) < 2 ^ places := by positivity
    rw [magnitude, zpow_neg, zpow_natCast, ← sub_mul, ← div_eq_mul_inv, div_le_iff₀ placePos]
      at above
    rw [magnitude, zpow_neg, zpow_natCast, ← add_mul, ← div_eq_mul_inv, le_div_iff₀ placePos]
      at below
    have least : (significand : ℚ) < (number * 2 ^ places + 1 : Nat) := by push_cast; linarith
    have greatest : ((number * 2 ^ places : Nat) : ℚ) < (significand + 1 : Nat) := by
      push_cast; linarith
    rw [Nat.cast_lt] at least greatest
    rw [Whole, neg_neg, Int.toNat_natCast]
    exact ⟨number, by rw [mul_comm]; omega⟩

namespace Interval

variable {significand : Nat} {exponent : Int} {narrowBelow : Bool} {tie : Tie}

/-- A decimal near enough to a number is in its interval. -/
theorem contains_around (positive : 0 < significand) {digits : Nat} {place : Int}
    (above : magnitude significand exponent - gap narrowBelow * 2 ^ exponent <
      (ShortDecimal.mk digits place).value)
    (below : (ShortDecimal.mk digits place).value <
      magnitude significand exponent + 1 / 2 * 2 ^ exponent) :
    (around significand exponent narrowBelow).contains digits place = true := by
  refine contains_of_between (unit_around_pos significand exponent narrowBelow) ?_ ?_
  · rwa [real_lower_around positive]
  · rwa [real_upper_around]

theorem value_around_pos (positive : 0 < significand) (exponent : Int) (narrowBelow : Bool) :
    0 < (around significand exponent narrowBelow).value :=
  Nat.mul_pos (Nat.mul_pos (by decide) positive) (Nat.pow_pos (by decide))

/-- A whole number has digits before the point. -/
theorem exists_pointPosition (positive : 0 < significand) (whole : Whole significand exponent)
    (narrowBelow : Bool) :
    ∃ point : Nat, 0 < point ∧
      (around significand exponent narrowBelow).pointPosition = point := by
  obtain ⟨number, numberEq⟩ := whole.exists_eq
  have unitPos : (0 : ℚ) < (around significand exponent narrowBelow).unit := by
    exact_mod_cast unit_around_pos significand exponent narrowBelow
  have some : 1 ≤ number := by
    have above : (0 : ℚ) < magnitude significand exponent := by
      rw [magnitude]
      positivity
    rw [numberEq] at above
    exact_mod_cast above
  have reached : (around significand exponent narrowBelow).unit ≤
      (around significand exponent narrowBelow).value := by
    have least : (1 : ℚ) ≤ (around significand exponent narrowBelow).real
        (around significand exponent narrowBelow).value := by
      rw [real_value_around, numberEq]
      exact_mod_cast some
    rw [real, le_div_iff₀ unitPos, one_mul] at least
    exact_mod_cast least
  rw [pointPosition, if_pos reached]
  exact ⟨_, Nat.length_repr_pos, rfl⟩

/-- Half a step of the grid with seventeen digits is less than the interval reaches to either
side. -/
theorem half_step_lt (proper : Proper significand narrowBelow) (exponent : Int) :
    (10 : ℚ) ^ ((around significand exponent narrowBelow).pointPosition - maxDigits) / 2 <
      gap narrowBelow * 2 ^ exponent := by
  have unitPos : (0 : ℚ) < 2 ^ exponent := by positivity
  have first := ten_zpow_pointPosition_le (unit_around_pos significand exponent narrowBelow)
    (value_around_pos proper.positive exponent narrowBelow)
  rw [real_value_around, magnitude] at first
  generalize (around significand exponent narrowBelow).pointPosition = point at first ⊢
  have lead : (10 : ℚ) ^ (point - maxDigits) * 10 ^ 16 ≤ significand * 2 ^ exponent := by
    rwa [← zpow_natCast, ← zpow_add₀ (by norm_num),
      show point - (maxDigits : Int) + (16 : Nat) = point - 1 by rw [maxDigits]; push_cast; ring]
  cases narrowBelow with
  | true =>
    have bounded : (significand : ℚ) ≤ 2 ^ 52 := by exact_mod_cast proper.narrow rfl
    have product := mul_le_mul_of_nonneg_right bounded unitPos.le
    rw [gap, if_pos rfl]
    linarith
  | false =>
    have bounded : (significand : ℚ) ≤ 2 ^ 53 := by exact_mod_cast proper.bounded.le
    have product := mul_le_mul_of_nonneg_right bounded unitPos.le
    rw [gap, if_neg Bool.false_ne_true]
    linarith

/-- **Seventeen digits are always enough**: the nearer neighbour of the number lies in its
interval. -/
theorem onGrid_maxDigits_ne_none (proper : Proper significand narrowBelow) :
    (around significand exponent narrowBelow).onGrid tie
      (around significand exponent narrowBelow).pointPosition maxDigits ≠ none := by
  apply onGrid_ne_none
  have reach := half_step_lt proper exponent
  generalize (around significand exponent narrowBelow).pointPosition - maxDigits = place at reach ⊢
  have unitPos : (0 : ℚ) < 2 ^ exponent := by positivity
  have sides := mul_le_mul_of_nonneg_right (gap_le narrowBelow) unitPos.le
  have unit := unit_around_pos significand exponent narrowBelow
  have below := floor_le unit place
  have above := lt_floor_succ unit place
  rw [real_value_around] at below above
  rw [ShortDecimal.value_succ] at above
  by_cases near : magnitude significand exponent - (10 : ℚ) ^ place / 2 ≤
      (ShortDecimal.mk ((around significand exponent narrowBelow).floor place) place).value
  · left
    apply contains_around proper.positive <;> linarith
  · right
    apply contains_around proper.positive <;> rw [ShortDecimal.value_succ] <;> linarith

/-- The grid of the whole numbers hits every whole number. -/
theorem onGrid_whole_ne_none (positive : 0 < significand) (whole : Whole significand exponent)
    (point : Nat) :
    (around significand exponent narrowBelow).onGrid tie point point ≠ none := by
  obtain ⟨number, numberEq⟩ := whole.exists_eq
  have unit := unit_around_pos significand exponent narrowBelow
  have unitPos : (0 : ℚ) < 2 ^ exponent := by positivity
  have natural : ∀ digits : Nat, (ShortDecimal.mk digits 0).value = digits := by
    intro digits
    rw [ShortDecimal.value, zpow_zero, mul_one]
  have below := floor_le unit 0
  have above := lt_floor_succ unit 0
  rw [real_value_around, numberEq, natural, Nat.cast_le] at below
  rw [real_value_around, numberEq, natural, Nat.cast_lt] at above
  have reached : (around significand exponent narrowBelow).floor 0 = number := by omega
  have sides := mul_pos (gap_pos narrowBelow) unitPos
  apply onGrid_ne_none
  rw [sub_self, reached]
  exact .inl (contains_around positive (by rw [natural]; linarith) (by rw [natural]; linarith))

end Interval

/-! ### Zeros at the end -/

theorem ShortDecimal.value_stripZeros (fuel : Nat) (decimal : ShortDecimal) :
    (decimal.stripZeros fuel).value = decimal.value := by
  induction fuel generalizing decimal with
  | zero => rfl
  | succ fuel ih =>
    rw [stripZeros]
    split
    · rename_i zero
      have split : (decimal.digits : ℚ) = (decimal.digits / 10 : Nat) * 10 := by
        exact_mod_cast (Nat.div_mul_cancel (Nat.dvd_of_mod_eq_zero zero.2)).symm
      rw [ih, value, value, split, zpow_add₀ (by norm_num), zpow_one]
      ring
    · rfl

theorem ShortDecimal.exponent_le_stripZeros (fuel : Nat) (decimal : ShortDecimal) :
    decimal.exponent ≤ (decimal.stripZeros fuel).exponent := by
  induction fuel generalizing decimal with
  | zero => exact le_rfl
  | succ fuel ih =>
    rw [stripZeros]
    split
    · have further := ih ⟨decimal.digits / 10, decimal.exponent + 1⟩
      exact (Int.le_add_one le_rfl).trans further
    · exact le_rfl

/-! ### The first hit -/

/-- A search in ascending order stops at the first number that is hit. -/
theorem exists_findSome?_range {β : Type} {pick : Nat → Option β} {number bound : Nat}
    (inside : number < bound) (hit : pick number ≠ none) :
    ∃ first ≤ number, ∃ found, pick first = some found ∧
      (List.range bound).findSome? pick = some found := by
  induction bound with
  | zero => exact absurd inside (Nat.not_lt_zero number)
  | succ bound ih =>
    rw [List.range_succ, List.findSome?_append]
    rcases Nat.lt_succ_iff_lt_or_eq.mp inside with earlier | rfl
    · obtain ⟨first, least, found, picked, searched⟩ := ih earlier
      exact ⟨first, least, found, picked, by rw [searched, Option.some_or]⟩
    · cases searched : (List.range number).findSome? pick with
      | none =>
        obtain ⟨found, picked⟩ := Option.ne_none_iff_exists'.mp hit
        exact ⟨number, le_rfl, found, picked, by simp [picked]⟩
      | some found =>
        obtain ⟨first, listed, picked⟩ := List.exists_of_findSome?_eq_some searched
        exact ⟨first, (List.mem_range.mp listed).le, found, picked, rfl⟩

section Search

variable {significand : Nat} {narrowBelow : Bool}

/-- **The search ends with a hit**, on a grid no finer than any that is hit. -/
theorem exists_hit (tie : Tie) {exponent : Int} {count : Nat} (some : 0 < count)
    (enough : count ≤ maxDigits)
    (hit : (Interval.around significand exponent narrowBelow).onGrid tie
      (Interval.around significand exponent narrowBelow).pointPosition count ≠ none) :
    ∃ decimal : ShortDecimal,
      (Interval.around significand exponent narrowBelow).pointPosition - count ≤
          decimal.exponent ∧
        (Interval.around significand exponent narrowBelow).contains decimal.digits
          decimal.exponent = true ∧
        shortest tie significand exponent narrowBelow = decimal.stripZeros maxDigits := by
  obtain ⟨last, rfl⟩ := Nat.exists_eq_succ_of_ne_zero some.ne'
  obtain ⟨first, least, decimal, picked, searched⟩ := @exists_findSome?_range _
    (fun count => (Interval.around significand exponent narrowBelow).onGrid tie
      (Interval.around significand exponent narrowBelow).pointPosition (count + 1))
    last maxDigits enough hit
  obtain ⟨place, passes⟩ := Interval.contains_of_onGrid picked
  refine ⟨decimal, ?_, passes, ?_⟩
  · rw [place]
    omega
  · rw [shortest, searched, Option.getD_some]

/-- **The shortest decimal is at most half a step away from the number.** -/
theorem shortest_value_mem (proper : Proper significand narrowBelow) (tie : Tie)
    (exponent : Int) :
    magnitude significand exponent - 1 / 2 * 2 ^ exponent ≤
        (shortest tie significand exponent narrowBelow).value ∧
      (shortest tie significand exponent narrowBelow).value ≤
        magnitude significand exponent + 1 / 2 * 2 ^ exponent := by
  obtain ⟨decimal, -, passes, found⟩ := exists_hit tie (by decide) le_rfl
    (@Interval.onGrid_maxDigits_ne_none significand exponent narrowBelow tie proper)
  have inside := Interval.mem_of_contains
    (Interval.unit_around_pos significand exponent narrowBelow) passes
  rw [Interval.real_lower_around proper.positive, Interval.real_upper_around] at inside
  have unitPos : (0 : ℚ) < 2 ^ exponent := by positivity
  have sides := mul_le_mul_of_nonneg_right (Interval.gap_le narrowBelow) unitPos.le
  rw [found, ShortDecimal.value_stripZeros]
  exact ⟨by linarith [inside.1], inside.2⟩

theorem shortest_value_pos (proper : Proper significand narrowBelow) (tie : Tie)
    (exponent : Int) : 0 < (shortest tie significand exponent narrowBelow).value := by
  have near := (shortest_value_mem proper tie exponent).1
  have unitPos : (0 : ℚ) < 2 ^ exponent := by positivity
  have positive : (1 : ℚ) ≤ significand := by exact_mod_cast proper.positive
  have product := mul_le_mul_of_nonneg_right positive unitPos.le
  rw [magnitude] at near
  linarith

theorem shortest_digits_pos (proper : Proper significand narrowBelow) (tie : Tie)
    (exponent : Int) : 0 < (shortest tie significand exponent narrowBelow).digits := by
  have positive := shortest_value_pos proper tie exponent
  rw [ShortDecimal.value] at positive
  exact_mod_cast pos_of_mul_pos_left positive (by positivity)

/-- **The shortest decimal has no fraction exactly if the number is whole.** -/
theorem shortest_exponent_nonneg_iff (proper : Proper significand narrowBelow) (tie : Tie)
    (exponent : Int) :
    0 ≤ (shortest tie significand exponent narrowBelow).exponent ↔ Whole significand exponent := by
  constructor
  · intro natural
    obtain ⟨above, below⟩ := shortest_value_mem proper tie exponent
    obtain ⟨place, placeEq⟩ := Int.eq_ofNat_of_zero_le natural
    have number : (shortest tie significand exponent narrowBelow).value =
        ((shortest tie significand exponent narrowBelow).digits * 10 ^ place : Nat) := by
      rw [ShortDecimal.value, placeEq]
      push_cast
      rfl
    rw [number] at above below
    exact .of_near above below
  · intro whole
    -- from the grid with as many digits as the whole number has on, no grid has a fraction
    obtain ⟨count, some, enough, least, hit⟩ : ∃ count, 0 < count ∧ count ≤ maxDigits ∧
        (count : Int) ≤ (Interval.around significand exponent narrowBelow).pointPosition ∧
        (Interval.around significand exponent narrowBelow).onGrid tie
          (Interval.around significand exponent narrowBelow).pointPosition count ≠ none := by
      obtain ⟨point, some, pointEq⟩ :=
        Interval.exists_pointPosition proper.positive whole narrowBelow
      rw [pointEq]
      by_cases enough : point ≤ maxDigits
      · exact ⟨point, some, enough, le_rfl,
          Interval.onGrid_whole_ne_none proper.positive whole point⟩
      · have seventeen := @Interval.onGrid_maxDigits_ne_none _ exponent _ tie proper
        rw [pointEq] at seventeen
        exact ⟨maxDigits, by decide, le_rfl, by omega, seventeen⟩
    obtain ⟨decimal, place, -, found⟩ := exists_hit tie some enough hit
    have stripped := decimal.exponent_le_stripZeros maxDigits
    rw [found]
    omega

/-- A number with a fraction has at most sixteen digits before the point. -/
theorem shortest_value_lt (proper : Proper significand narrowBelow) (tie : Tie) {exponent : Int}
    (fraction : ¬ Whole significand exponent) :
    (shortest tie significand exponent narrowBelow).value < 10 ^ (16 : Int) := by
  have below := (shortest_value_mem proper tie exponent).2
  have fractional : exponent ≤ -1 := by
    by_contra natural
    rw [Whole, Int.toNat_of_nonpos (by omega), pow_zero] at fraction
    exact fraction (one_dvd significand)
  have half : (2 : ℚ) ^ exponent ≤ 2 ^ (-1 : Int) := zpow_le_zpow_right₀ (by norm_num) fractional
  have bounded : (significand : ℚ) + 1 ≤ 2 ^ 53 := by exact_mod_cast proper.bounded
  have product := mul_le_mul bounded half (by positivity) (by norm_num)
  have unitPos : (0 : ℚ) < 2 ^ exponent := by positivity
  rw [magnitude] at below
  norm_num at product ⊢
  linarith

end Search

end SecondaryIndex.Decimal
