/-
**Pages cut a list into parts.**

Bounds of pages are 64 bits wide, and so are the lengths of lists that a machine can hold. For those
it does not matter that the sum of two bounds stays at the greatest such number:

* `Page.window_of_le` — the window of a page starts at its offset and ends in the list
  (`Page.stop_le`), behind so many items as there are rows (`Page.stop_sub_offset`);
* `Page.cut?_eq` — the cuts at its two ends are made within the list;
* `Page.apply_of_rows` — a page takes so many items behind those that it skips, and of no more items
  than it has rows all that are left (`Page.apply_of_length_le`);
* `Page.tiling` — the pages of so many rows each, up to the first that would start at the end or
  behind it;
* `Page.flatMap_tiling` — one page after the other, they have every item in order, and
  `Page.existsUnique_of_mem` — an item that is listed once is on one of them;
* `Page.window_arithmetic` — where windows are, what pages take, and how two of them join.
-/

import Mathlib.Data.List.Nodup
import Mathlib.Data.List.Pairwise
import SecondaryIndex.Page

namespace SecondaryIndex

namespace Page

variable {α : Type} {page : Page} {rows : UInt64} {length : Nat} {items : List α}

/-! ### Windows -/

/-- A list that is shorter than the offset has no window. -/
theorem window_eq_none_iff : page.window length = none ↔ length < page.offset.toNat := by
  rw [window]
  by_cases short : length < page.offset.toNat
  · rw [if_pos short]
    exact iff_of_true rfl short
  · rw [if_neg short]
    refine iff_of_false (fun missing => ?_) short
    cases bound : page.rows <;> rw [bound] at missing <;> cases missing

/-- The position behind the last item of a window. -/
def stop (page : Page) (length : Nat) : Nat :=
  page.rows.elim length fun rows => min (saturatingSum page.offset rows) length

theorem window_of_le (reaches : page.offset.toNat ≤ length) :
    page.window length = some (page.offset.toNat, page.stop length) := by
  rw [window, stop, if_neg (Nat.not_lt.mpr reaches)]
  cases page.rows <;> rfl

theorem stop_le (page : Page) (length : Nat) : page.stop length ≤ length := by
  rw [stop]
  cases page.rows with
  | none => exact Nat.le_refl length
  | some rows => exact Nat.min_le_right ..

/-- Also a sum that does not fit is no less than its first part. -/
theorem le_saturatingSum (first second : UInt64) : first.toNat ≤ saturatingSum first second := by
  have word := first.toNat_lt_size
  rw [saturatingSum]
  omega

theorem offset_le_stop (reaches : page.offset.toNat ≤ length) :
    page.offset.toNat ≤ page.stop length := by
  rw [stop]
  cases page.rows with
  | none => exact reaches
  | some rows => exact Nat.le_min.mpr ⟨le_saturatingSum page.offset rows, reaches⟩

/-- **The size of a window**: the rows, or what is behind the offset if that is less. -/
theorem stop_sub_offset (bounded : page.rows = some rows) (few : length < UInt64.size) :
    page.stop length - page.offset.toNat = min rows.toNat (length - page.offset.toNat) := by
  rw [stop, bounded, Option.elim_some, saturatingSum]
  omega

/-- No window has more items than rows. -/
theorem stop_sub_offset_le (bounded : page.rows = some rows) :
    page.stop length - page.offset.toNat ≤ rows.toNat := by
  rw [stop, bounded, Option.elim_some, saturatingSum]
  omega

/-- What a page has: the items between the two ends of its window. -/
theorem apply_eq (page : Page) (items : List α) :
    page.apply items =
      (items.drop page.offset.toNat).take (page.stop items.length - page.offset.toNat) := by
  rcases Nat.lt_or_ge items.length page.offset.toNat with short | reaches
  · rw [apply, window_eq_none_iff.mpr short, List.drop_eq_nil_of_le (Nat.le_of_lt short),
      List.take_nil]
  · rw [apply, window_of_le reaches, ← List.drop_take]

/-! ### Cuts -/

/-- The first items of a list that has so many. -/
def takeWithin? (items : List α) (count : Nat) : Option (List α) :=
  if count ≤ items.length then some (items.take count) else none

/-- The items behind the first ones of a list that has so many. -/
def dropWithin? (items : List α) (count : Nat) : Option (List α) :=
  if count ≤ items.length then some (items.drop count) else none

/-- **The window, cut out of a list**: first what is behind it is cut off and then what is before
it. There is no outcome if a cut would be made beyond the end. -/
def cut? (page : Page) (items : List α) : Option (List α) :=
  match page.window items.length with
  | some (start, stop) => (takeWithin? items stop).bind fun kept => dropWithin? kept start
  | none => some []

/-- **Both cuts are made within the list**, and the page is what they leave. -/
theorem cut?_eq (page : Page) (items : List α) : page.cut? items = some (page.apply items) := by
  rcases Nat.lt_or_ge items.length page.offset.toNat with short | reaches
  · rw [cut?, apply, window_eq_none_iff.mpr short]
  · have inside := page.stop_le items.length
    have kept : page.offset.toNat ≤ (items.take (page.stop items.length)).length := by
      rw [List.length_take_of_le inside]
      exact offset_le_stop reaches
    rw [cut?, apply, window_of_le reaches]
    show (takeWithin? items (page.stop items.length)).bind _ = _
    rw [takeWithin?, if_pos inside, Option.bind_some, dropWithin?, if_pos kept]

/-! ### One page -/

/-- A page leaves items in their order. -/
theorem apply_sublist (page : Page) (items : List α) : (page.apply items).Sublist items := by
  rw [apply]
  split
  · exact (List.drop_sublist ..).trans (List.take_sublist ..)
  · exact List.nil_sublist items

/-- A page takes so many items behind those that it skips. -/
theorem apply_of_rows (bounded : page.rows = some rows) (few : items.length < UInt64.size) :
    page.apply items = (items.drop page.offset.toNat).take rows.toNat := by
  rw [apply_eq, stop_sub_offset bounded few, List.take_eq_take_iff, List.length_drop]
  omega

/-- Without a bound a page has all items behind those that it skips. -/
theorem apply_of_unbounded (unbounded : page.rows = none) :
    page.apply items = items.drop page.offset.toNat := by
  rw [apply_eq, stop, unbounded, Option.elim_none,
    List.take_of_length_le (Nat.le_of_eq List.length_drop)]

/-- Of no more items than a page has rows, those are on the page that are not skipped. -/
theorem apply_of_length_le (bounded : page.rows = some rows) (few : items.length ≤ rows.toNat) :
    page.apply items = items.drop page.offset.toNat := by
  rw [apply_of_rows bounded (Nat.lt_of_le_of_lt few rows.toNat_lt_size), List.take_of_length_le]
  rw [List.length_drop]
  omega

/-- No page has more items than rows. -/
theorem length_apply_le (bounded : page.rows = some rows) :
    (page.apply items).length ≤ rows.toNat := by
  rw [apply_eq]
  exact Nat.le_trans (List.length_take_le ..) (stop_sub_offset_le bounded)

/-- A page that would start behind the end is empty. -/
theorem apply_eq_nil (behind : items.length ≤ page.offset.toNat) : page.apply items = [] := by
  rw [apply_eq, List.drop_eq_nil_of_le behind, List.take_nil]

/-! ### Pages with given bounds -/

theorem rows_ofBounds (positive : 1 ≤ rows.toNat) (offset : UInt64) :
    (ofBounds offset rows).rows = some rows := by
  have some : rows ≠ 0 := by
    rintro rfl
    exact absurd positive (by decide)
  exact if_neg some

/-- The size of the window of a page with bounds, where zero rows mean no bound. -/
theorem stop_ofBounds_sub_offset (offset rows : UInt64) (few : length < UInt64.size) :
    (ofBounds offset rows).stop length - offset.toNat =
      if rows = 0 then length - offset.toNat else min rows.toNat (length - offset.toNat) := by
  by_cases unbounded : rows = 0
  · have none : (ofBounds offset rows).rows = none := if_pos unbounded
    rw [if_pos unbounded, stop, none, Option.elim_none]
  · rw [if_neg unbounded]
    exact stop_sub_offset (if_neg unbounded) few

/-- What a page with bounds has, where zero rows mean no bound. -/
theorem apply_ofBounds (offset rows : UInt64) (few : items.length < UInt64.size) :
    (ofBounds offset rows).apply items =
      if rows = 0 then items.drop offset.toNat
      else (items.drop offset.toNat).take rows.toNat := by
  by_cases unbounded : rows = 0
  · rw [if_pos unbounded]
    exact apply_of_unbounded (if_pos unbounded)
  · rw [if_neg unbounded]
    exact apply_of_rows (if_neg unbounded) few

/-- A sum that fits is the sum of the numbers. -/
theorem toNat_add_of_lt {first second : UInt64}
    (fits : first.toNat + second.toNat < UInt64.size) :
    (first + second).toNat = first.toNat + second.toNat := by
  rw [UInt64.toNat_add]
  exact Nat.mod_eq_of_lt fits

/-- **A page and the one that starts where it ends** are the page with the rows of both. -/
theorem apply_append {offset others : UInt64} (positive : 1 ≤ rows.toNat)
    (further : 1 ≤ others.toNat) (few : items.length < UInt64.size)
    (ends : offset.toNat + rows.toNat < UInt64.size)
    (fits : rows.toNat + others.toNat < UInt64.size) :
    (ofBounds offset rows).apply items ++ (ofBounds (offset + rows) others).apply items =
      (ofBounds offset (rows + others)).apply items := by
  have start : (offset + rows).toNat = offset.toNat + rows.toNat := toNat_add_of_lt ends
  have both : (rows + others).toNat = rows.toNat + others.toNat := toNat_add_of_lt fits
  have some : 1 ≤ (rows + others).toNat := both ▸ Nat.le_add_right_of_le positive
  calc (ofBounds offset rows).apply items ++ (ofBounds (offset + rows) others).apply items
    _ = (items.drop offset.toNat).take rows.toNat ++
        (items.drop (offset + rows).toNat).take others.toNat := by
      rw [apply_of_rows (rows_ofBounds positive _) few,
        apply_of_rows (rows_ofBounds further _) few]
      rfl
    _ = (items.drop offset.toNat).take (rows + others).toNat := by
      rw [start, both, List.take_add, List.drop_drop]
    _ = (ofBounds offset (rows + others)).apply items :=
      (apply_of_rows (rows_ofBounds some _) few).symm

/-! ### One page after the other -/

/-- A page in a row of pages with so many rows each. -/
def nth (rows : UInt64) (number : Nat) : Page :=
  .ofBounds (.ofNat (number * rows.toNat)) rows

/-- **The pages of so many rows each** that a list of some length has: the next one would start at
its end or behind it. -/
def tiling (rows : UInt64) (length : Nat) : List Page :=
  (List.range ((length + rows.toNat - 1) / rows.toNat)).map (nth rows)

/-- A page is one of a list exactly if it starts before its end. -/
theorem lt_pages_iff (positive : 1 ≤ rows.toNat) {number : Nat} :
    number < (length + rows.toNat - 1) / rows.toNat ↔ number * rows.toNat < length := by
  rw [Nat.lt_div_iff_mul_lt positive]
  omega

theorem rows_nth (positive : 1 ≤ rows.toNat) (number : Nat) :
    (nth rows number).rows = some rows :=
  rows_ofBounds positive _

theorem rows_of_mem_tiling (positive : 1 ≤ rows.toNat) (listed : page ∈ tiling rows length) :
    page.rows = some rows := by
  obtain ⟨number, _, rfl⟩ := List.mem_map.mp listed
  exact rows_nth positive number

/-- **A page in a row has its part of a list**: the items between its start and that of the next. -/
theorem apply_nth (positive : 1 ≤ rows.toNat) (few : items.length < UInt64.size) {number : Nat}
    (before : number * rows.toNat < items.length) :
    (nth rows number).apply items = (items.drop (number * rows.toNat)).take rows.toNat := by
  rw [apply_of_rows (rows_nth positive number) few]
  congr 2
  exact UInt64.toNat_ofNat_of_lt' (Nat.lt_trans before few)

/-- The first pages of a row have what is before the start of the next one. -/
theorem flatMap_range_take (items : List α) (width count : Nat) :
    ((List.range count).flatMap fun number => (items.drop (number * width)).take width) =
      items.take (count * width) := by
  induction count with
  | zero => rw [Nat.zero_mul, List.take_zero, List.range_zero, List.flatMap_nil]
  | succ count ih =>
    rw [List.range_succ, List.flatMap_append, ih, List.flatMap_singleton, Nat.succ_mul,
      List.take_add]

/-- **One page after the other has every item, in order.** -/
theorem flatMap_tiling (positive : 1 ≤ rows.toNat) (few : items.length < UInt64.size) :
    ((tiling rows items.length).flatMap fun page => page.apply items) = items := by
  have parts : ∀ number ∈ List.range ((items.length + rows.toNat - 1) / rows.toNat),
      (nth rows number).apply items = (items.drop (number * rows.toNat)).take rows.toNat :=
    fun number listed =>
      apply_nth positive few ((lt_pages_iff positive).mp (List.mem_range.mp listed))
  have all : items.length ≤ (items.length + rows.toNat - 1) / rows.toNat * rows.toNat := by
    refine Nat.le_of_not_lt fun more => ?_
    exact Nat.lt_irrefl _ ((lt_pages_iff positive).mpr more)
  rw [tiling, List.flatMap_map, List.flatMap_congr parts, flatMap_range_take,
    List.take_of_length_le all]

/-- **An item that is listed once is on one page** of the row. -/
theorem existsUnique_of_mem (positive : 1 ≤ rows.toNat) (few : items.length < UInt64.size)
    (nodup : items.Nodup) {item : α} (listed : item ∈ items) :
    ∃! page, page ∈ tiling rows items.length ∧ item ∈ page.apply items := by
  have all := flatMap_tiling positive few
  have apart : (tiling rows items.length).Pairwise fun first second =>
      (first.apply items).Disjoint (second.apply items) :=
    (List.nodup_flatMap.mp (all.symm ▸ nodup)).2
  have : Std.Symm fun first second : Page =>
      (first.apply items).Disjoint (second.apply items) := ⟨fun _ _ => List.disjoint_symm⟩
  obtain ⟨page, here, onPage⟩ := List.mem_flatMap.mp (all.symm ▸ listed)
  refine ⟨page, ⟨here, onPage⟩, fun other ⟨there, onOther⟩ => ?_⟩
  by_contra different
  exact apart.forall there here different onOther onPage

/-! ### The arithmetic of pages -/

/-- **Where windows are, what pages take, and how two of them join.** There is no window exactly if
the list is shorter than the offset. Otherwise it starts at the offset, ends in the list, and has as
many items as there are rows, or what is behind the offset if that is less or there is no bound. It
does not matter whether offset and rows have a sum of 64 bits. A page is cut out within the list and
has the rows behind the items that it skips. A page and the one that starts where it ends are the
page with the rows of both. Lists that a machine holds have lengths of 64 bits. -/
theorem window_arithmetic (offset rows : UInt64) :
    (∀ length : Nat,
      ((ofBounds offset rows).window length = none ↔ length < offset.toNat) ∧
      (offset.toNat ≤ length → ∃ stop,
        (ofBounds offset rows).window length = some (offset.toNat, stop) ∧
          offset.toNat ≤ stop ∧ stop ≤ length ∧
          (length < UInt64.size → stop - offset.toNat =
            if rows = 0 then length - offset.toNat
            else min rows.toNat (length - offset.toNat)))) ∧
    ∀ {α : Type} (items : List α),
      (ofBounds offset rows).cut? items = some ((ofBounds offset rows).apply items) ∧
      (items.length < UInt64.size →
        (ofBounds offset rows).apply items =
          (if rows = 0 then items.drop offset.toNat
          else (items.drop offset.toNat).take rows.toNat) ∧
        ∀ others : UInt64, 1 ≤ rows.toNat → 1 ≤ others.toNat →
          offset.toNat + rows.toNat < UInt64.size → rows.toNat + others.toNat < UInt64.size →
          (ofBounds offset rows).apply items ++ (ofBounds (offset + rows) others).apply items =
            (ofBounds offset (rows + others)).apply items) := by
  refine ⟨fun length => ⟨window_eq_none_iff, fun reaches => ?_⟩, fun items =>
    ⟨cut?_eq .., fun few => ⟨apply_ofBounds offset rows few,
      fun others positive further ends fits => apply_append positive further few ends fits⟩⟩⟩
  have starts : (ofBounds offset rows).offset.toNat ≤ length := reaches
  exact ⟨_, window_of_le starts, offset_le_stop starts, stop_le ..,
    stop_ofBounds_sub_offset offset rows⟩

/-- Offset and rows of two of these pages have sums that do not fit: the window ends with the list,
and so does the page that continues another one. -/
theorem window_arithmetic_saturated :
    2 ≤ 5 ∧ 5 < UInt64.size ∧
      (ofBounds 2 18446744073709551615).window 5 = some (2, 5) ∧
      (ofBounds 2 18446744073709551615).cut? [1, 2, 3, 4, 5] = some [3, 4, 5] ∧
      (1 : UInt64).toNat + (2 : UInt64).toNat < UInt64.size ∧
      (2 : UInt64).toNat + (18446744073709551613 : UInt64).toNat < UInt64.size ∧
      (ofBounds 1 2).apply [1, 2, 3, 4, 5] ++
          (ofBounds 3 18446744073709551613).apply [1, 2, 3, 4, 5] =
        (ofBounds 1 18446744073709551615).apply [1, 2, 3, 4, 5] := by
  obtain ⟨windows, pages⟩ := window_arithmetic 2 18446744073709551615
  obtain ⟨stop, window, -, -, size⟩ := (windows 5).2 (by decide)
  have ends : stop = 5 := by
    have behind : stop - 2 = 3 := (size (by decide)).trans (by decide)
    omega
  obtain ⟨cut, taken⟩ := pages [1, 2, 3, 4, 5]
  have joined := ((window_arithmetic 1 2).2 [1, 2, 3, 4, 5]).2 (by decide)
  refine ⟨by decide, by decide, ends ▸ window, ?_, by decide, by decide, ?_⟩
  · rw [cut, (taken (by decide)).1]
    decide
  · exact joined.2 18446744073709551613 (by decide) (by decide) (by decide) (by decide)

end Page

end SecondaryIndex
