/-
**Lists of computations that may fail.**

* `exists_of_isOk` — an outcome that is no error has a value;
* `mapM_eq_ok_iff` — a list of computations succeeds with the values that its items succeed with,
  and `exists_mapM_eq_ok` — it does if each of them does;
* `mapM_eq_error` — it fails with the error of an item if all others succeed;
* `foldlM_eq_error_iff` — where it does not depend on the state whether an item fails, the first one
  that does is that of the fold.
-/

import Mathlib.Data.List.Forall2

namespace SecondaryIndex

/-- An outcome that is no error has a value. -/
theorem exists_of_isOk {ε α : Type} {outcome : Except ε α} (isOk : outcome.isOk) :
    ∃ value, outcome = .ok value := by
  cases outcome with
  | ok value => exact ⟨value, rfl⟩
  | error error => cases isOk

/-- A list of computations succeeds with the values that its items succeed with. -/
theorem mapM_eq_ok_iff {α β ε : Type} {compute : α → Except ε β} {items : List α}
    {values : List β} :
    items.mapM compute = .ok values ↔
      List.Forall₂ (fun item value => compute item = .ok value) items values := by
  induction items generalizing values with
  | nil =>
    rw [List.mapM_nil, List.forall₂_nil_left_iff, eq_comm (b := [])]
    exact Except.ok.injEq [] values ▸ Iff.rfl
  | cons item items ih =>
    rw [List.mapM_cons, List.forall₂_cons_left_iff]
    cases computed : compute item with
    | error error => simp [bind, Except.bind]
    | ok value =>
      cases rest : items.mapM compute with
      | error error => simp [bind, Except.bind, ← ih, rest]
      | ok others => simp [bind, Except.bind, pure, Except.pure, ← ih, rest, eq_comm]

theorem exists_forall₂ {α β : Type} {related : α → β → Prop} {items : List α}
    (each : ∀ item ∈ items, ∃ value, related item value) :
    ∃ values, List.Forall₂ related items values := by
  induction items with
  | nil => exact ⟨[], .nil⟩
  | cons item items ih =>
    rw [List.forall_mem_cons] at each
    obtain ⟨value, held⟩ := each.1
    obtain ⟨values, rest⟩ := ih each.2
    exact ⟨value :: values, .cons held rest⟩

section Lists

variable {α β ε : Type} {compute : α → Except ε β} {items : List α} {position : Nat} {item : α}

/-- A list of computations fails as the only one of them that does. -/
theorem mapM_eq_error {error : ε} (here : items[position]? = some item)
    (failed : compute item = .error error)
    (others : ∀ (index : Nat) (other : α), items[index]? = some other → index ≠ position →
      (compute other).isOk) : items.mapM compute = .error error := by
  induction items generalizing position with
  | nil => cases here
  | cons first items ih =>
    rw [List.mapM_cons]
    cases position with
    | zero =>
      cases here
      rw [failed]
      rfl
    | succ position =>
      obtain ⟨value, read⟩ := exists_of_isOk (others 0 first rfl (Nat.succ_ne_zero position).symm)
      have later := ih here fun index other found apart =>
        others (index + 1) other found fun same => apart (Nat.succ.inj same)
      rw [read, later]
      rfl

/-- A list of computations that all succeed has the value of each at its position. -/
theorem exists_mapM_eq_ok (each : ∀ item ∈ items, (compute item).isOk) :
    ∃ values, items.mapM compute = .ok values ∧ ∀ (position : Nat) (item : α) (value : β),
      items[position]? = some item → compute item = .ok value → values[position]? = some value := by
  obtain ⟨values, all⟩ := exists_forall₂ fun item listed => exists_of_isOk (each item listed)
  refine ⟨values, mapM_eq_ok_iff.mpr all, fun position item value found done => ?_⟩
  obtain ⟨length, same⟩ := List.forall₂_iff_get.mp all
  obtain ⟨inside, rfl⟩ := List.getElem?_eq_some_iff.mp found
  have computed := same position inside (length ▸ inside)
  rw [List.getElem?_eq_getElem (length ▸ inside)]
  exact congrArg some (Except.ok.inj (computed.symm.trans done))

/-- **A fold fails as the first of its items that does**, if each fails or not in whatever state. -/
theorem foldlM_eq_error_iff {step : β → α → Except ε β} {fails : α → ε → Prop} {error : ε}
    (each : ∀ state item reason, step state item = .error reason ↔ fails item reason) {start : β} :
    items.foldlM step start = .error error ↔ ∃ before item after,
      items = before ++ item :: after ∧ (∀ earlier ∈ before, ∀ reason, ¬ fails earlier reason) ∧
        fails item error := by
  induction items generalizing start with
  | nil =>
    refine iff_of_false nofun ?_
    rintro ⟨before, item, after, none, _⟩
    exact List.append_ne_nil_of_right_ne_nil before (List.cons_ne_nil _ _) none.symm
  | cons first items ih =>
    rw [List.foldlM_cons]
    cases stepped : step start first with
    | error reason =>
      have failed := (each start first reason).mp stepped
      constructor
      · rintro same
        cases same
        exact ⟨[], first, items, rfl, nofun, failed⟩
      · rintro ⟨before, item, after, split, fine, fails⟩
        cases before with
        | nil =>
          cases split
          exact stepped.symm.trans ((each start first error).mpr fails)
        | cons other before =>
          cases split
          exact (fine first List.mem_cons_self reason failed).elim
    | ok state =>
      have fine : ∀ reason, ¬ fails first reason := fun reason failed =>
        nomatch stepped.symm.trans ((each start first reason).mpr failed)
      refine ih.trans ⟨?_, ?_⟩
      · rintro ⟨before, item, after, rfl, clean, failed⟩
        exact ⟨first :: before, item, after, rfl, List.forall_mem_cons.mpr ⟨fine, clean⟩, failed⟩
      · rintro ⟨before, item, after, split, clean, failed⟩
        cases before with
        | nil =>
          cases split
          exact (fine error failed).elim
        | cons other before =>
          cases split
          exact ⟨before, item, after, rfl, fun earlier listed =>
            clean earlier (List.mem_cons_of_mem _ listed), failed⟩

end Lists

end SecondaryIndex
