/-
**Putting a leaf at a path, and looking paths up afterwards.**

Paths are compared by the steps that they spell, since two segments may spell one index.

* `Json.Diverge` — neither way leads along the other, and the first steps in which they differ are
  of one kind; `Json.parting_iff` — such ways part, and no others do;
* `Json.of_follow_place_of_parting` — at the end of a way that parts from the one to a leaf there is
  nothing new but null;
* `lens_laws` — a leaf is found where it was put, what is elsewhere stays as it was, and a leaf is
  refused exactly if an index in its path is too high.
-/

import SecondaryIndex.Proofs.Entity.Faults

namespace SecondaryIndex

namespace Json

/-! ## Part 1 — ways that diverge -/

/-- **Two ways diverge.** Neither leads along the other, and where they first differ, both lead to
items or both to members. -/
structure Diverge (steps others : List Step) : Prop where
  notAlong : ¬ steps <+: others
  notBehind : ¬ others <+: steps
  sameKind : ∀ shared step other, shared ++ [step] <+: steps → shared ++ [other] <+: others →
    step ≠ other → step.SameKind other

section Ways

variable {step other : Step} {steps rest others : List Step}

theorem Diverge.of_heads (different : step ≠ other) (kind : step.SameKind other)
    (rest others : List Step) : Diverge (step :: rest) (other :: others) where
  notAlong along := different (List.cons_prefix_cons.mp along).1
  notBehind along := different (List.cons_prefix_cons.mp along).1.symm
  sameKind shared one two here there _ := by
    cases shared with
    | nil =>
      obtain ⟨rfl, _⟩ := List.cons_prefix_cons.mp here
      obtain ⟨rfl, _⟩ := List.cons_prefix_cons.mp there
      exact kind
    | cons head shared =>
      have first : head = step := (List.cons_prefix_cons.mp here).1
      have second : head = other := (List.cons_prefix_cons.mp there).1
      exact absurd (first.symm.trans second) different

theorem Diverge.further (step : Step) (diverge : Diverge rest others) :
    Diverge (step :: rest) (step :: others) where
  notAlong along := diverge.notAlong (List.cons_prefix_cons.mp along).2
  notBehind along := diverge.notBehind (List.cons_prefix_cons.mp along).2
  sameKind shared one two here there different := by
    cases shared with
    | nil =>
      have first : one = step := (List.cons_prefix_cons.mp here).1
      have second : two = step := (List.cons_prefix_cons.mp there).1
      exact absurd (first.trans second.symm) different
    | cons head shared =>
      exact diverge.sameKind shared one two (List.cons_prefix_cons.mp here).2
        (List.cons_prefix_cons.mp there).2 different

theorem Diverge.parting (diverge : Diverge steps others) : Parting steps others := by
  induction steps generalizing others with
  | nil => exact absurd List.nil_prefix diverge.notAlong
  | cons step rest ih =>
    cases others with
    | nil => exact absurd List.nil_prefix diverge.notBehind
    | cons other others =>
      by_cases same : step = other
      · subst same
        refine .further step (ih ⟨fun along => ?_, fun along => ?_, ?_⟩)
        · exact diverge.notAlong (List.cons_prefix_cons.mpr ⟨rfl, along⟩)
        · exact diverge.notBehind (List.cons_prefix_cons.mpr ⟨rfl, along⟩)
        · intro shared one two here there different
          exact diverge.sameKind (step :: shared) one two (List.cons_prefix_cons.mpr ⟨rfl, here⟩)
            (List.cons_prefix_cons.mpr ⟨rfl, there⟩) different
      · refine .of_heads same ?_ rest others
        exact diverge.sameKind [] step other (List.cons_prefix_cons.mpr ⟨rfl, List.nil_prefix⟩)
          (List.cons_prefix_cons.mpr ⟨rfl, List.nil_prefix⟩) same

/-- **Ways part exactly if they diverge.** -/
theorem parting_iff : Parting steps others ↔ Diverge steps others := by
  refine ⟨fun parting => ?_, Diverge.parting⟩
  induction parting with
  | items different rest others =>
    exact .of_heads (fun same => different (Step.index.inj same)) trivial rest others
  | members different rest others =>
    exact .of_heads (fun same => different (Step.key.inj same)) trivial rest others
  | further step _ ih => exact ih.further step

end Ways

/-! ## Part 2 — what is elsewhere -/

section Elsewhere

variable {bound : Nat} {leaf target placed held : Json} {step other : Step}
  {steps rest others : List Step}

/-- Where the first steps differ, the value has an old child or a null. -/
theorem of_follow_place_of_ne (different : step ≠ other)
    (done : place bound leaf (step :: rest) target = some placed)
    (found : follow (other :: others) placed = some held) :
    follow (other :: others) target = some held ∨ held = .null := by
  obtain ⟨_, _, _, elsewhere⟩ := exists_child_place done
  obtain ⟨child, there, onward⟩ := Option.bind_eq_some_iff.mp found
  rcases (elsewhere other child different).2 there with before | rfl
  · exact .inl (Option.bind_eq_some_iff.mpr ⟨child, before, onward⟩)
  · exact .inr (follow_null onward)

/-- **Elsewhere there is nothing new but null**: what fills up an array before the leaf. -/
theorem of_follow_place_of_parting (parting : Parting steps others)
    (done : place bound leaf steps target = some placed)
    (found : follow others placed = some held) :
    follow others target = some held ∨ held = .null := by
  induction parting generalizing target placed with
  | items different =>
    exact of_follow_place_of_ne (fun same => different (Step.index.inj same)) done found
  | members different =>
    exact of_follow_place_of_ne (fun same => different (Step.key.inj same)) done found
  | further step _ ih =>
    obtain ⟨slot, filled, here, _⟩ := exists_child_place done
    obtain ⟨child, there, onward⟩ := Option.bind_eq_some_iff.mp found
    cases here.symm.trans there
    rcases ih filled onward with before | blank
    · cases known : child? step target with
      | some child =>
        rw [known, Option.getD_some] at before
        exact .inl (Option.bind_eq_some_iff.mpr ⟨child, known, before⟩)
      | none =>
        -- the way went on in a null, which has nothing inside
        rw [known, Option.getD_none] at before
        exact .inr (follow_null before)
    · exact .inr blank

end Elsewhere

end Json

open Json

/-! ## Part 3 — the laws -/

/-- **Leaves and paths are a lens.** A leaf that is put at a path is found there. What is at the end
of a path that diverges stays there, and a path that diverges and led nowhere leads nowhere or to
null. A leaf is refused exactly if a segment of its path is an index at or behind the bound. -/
theorem lens_laws (bound : Nat) (leaf value : Json) (path : String) :
    (∀ placed, place bound leaf (steps path) value = some placed →
      lookup path placed = some leaf ∧
      ∀ other, Diverge (steps path) (steps other) →
        (∀ held, lookup other value = some held → lookup other placed = some held) ∧
        (lookup other value = none →
          lookup other placed = none ∨ lookup other placed = some .null)) ∧
    (place bound leaf (steps path) value = none ↔
      ∃ segment ∈ segments path, ∃ position,
        arrayIndex? segment = some position ∧ bound ≤ position) := by
  refine ⟨fun placed done => ⟨follow_place done, fun other diverge => ?_⟩, ?_⟩
  · have parting : Parting (steps path) (steps other) := diverge.parting
    refine ⟨fun held found => follow_place_of_parting parting done found, fun nowhere => ?_⟩
    cases found : lookup other placed with
    | none => exact .inl rfl
    | some held =>
      rcases of_follow_place_of_parting parting done found with before | rfl
      · cases nowhere.symm.trans before
      · exact .inr rfl
  · exact place_eq_none_iff.trans tooHigh_steps_iff

example : steps "tags.[+2]" = steps "tags.[2]" := by decide +kernel

/-- A gambler with one tag. -/
def taggedGambler : Json :=
  .object [("name", .text "Mat"), ("tags", .array [.text "dice"])]

/-- The third tag leaves the first one alone and makes the second one null. -/
theorem lens_laws_gambler : ∃ placed,
    place 3 (.text "luck") (steps "tags.[2]") taggedGambler = some placed ∧
      lookup "tags.[2]" placed = some (.text "luck") ∧
      Diverge (steps "tags.[2]") (steps "tags.[0]") ∧
      lookup "tags.[0]" placed = some (.text "dice") ∧
      Diverge (steps "tags.[2]") (steps "tags.[1]") ∧
      lookup "tags.[1]" taggedGambler = none ∧
      (lookup "tags.[1]" placed = none ∨ lookup "tags.[1]" placed = some .null) ∧
      place 2 (.text "luck") (steps "tags.[2]") taggedGambler = none := by
  have third : steps "tags.[2]" = [.key "tags", .index 2] := by decide +kernel
  have first : Diverge (steps "tags.[2]") (steps "tags.[0]") := by
    rw [third, show steps "tags.[0]" = [.key "tags", .index 0] by decide +kernel]
    exact parting_iff.mp (.further _ (.items (by decide) [] []))
  have second : Diverge (steps "tags.[2]") (steps "tags.[1]") := by
    rw [third, show steps "tags.[1]" = [.key "tags", .index 1] by decide +kernel]
    exact parting_iff.mp (.further _ (.items (by decide) [] []))
  have low : (place 3 (.text "luck") (steps "tags.[2]") taggedGambler).isSome := by
    decide +kernel
  obtain ⟨placed, done⟩ := Option.isSome_iff_exists.mp low
  obtain ⟨found, elsewhere⟩ := (lens_laws 3 (.text "luck") taggedGambler "tags.[2]").1 placed done
  have nowhere : lookup "tags.[1]" taggedGambler = none := by decide +kernel
  refine ⟨placed, done, found, first, ?_, second, nowhere, ?_, ?_⟩
  · exact (elsewhere "tags.[0]" first).1 _ (by decide +kernel)
  · exact (elsewhere "tags.[1]" second).2 nowhere
  · exact (lens_laws 2 (.text "luck") taggedGambler "tags.[2]").2.mpr
      ⟨"[2]".toList, by decide +kernel, 2, by decide +kernel, Nat.le_refl 2⟩

end SecondaryIndex
