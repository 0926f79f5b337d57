/-
**The order in which criteria are put together does not matter.**

Criteria list their predicates in the order in which they were added, and plans list keys and ids in
that order. It shows in the order of what is found, and in which of several misfits is reported:

* `Criteria.Reorders` — two criteria have the same predicates in each group, and the same circle;
* `Group.Reorders` — two groups list the same ids and keys, `reorders_allOf` and `reorders_anyOf` —
  those of reordered predicates do, a lone predicate being alone in any order;
* `Reorders.perm_named` — reordered criteria name the same ids;
* `reordered_criteria_answer_alike` — they find the same entities and count as many.
-/

import SecondaryIndex.Proofs.Query.FullScan
import SecondaryIndex.Proofs.Query.Unordered

namespace SecondaryIndex

/-! ## Part 1 — groups -/

/-- The groups list the same ids and the same keys, in some order. -/
structure Group.Reorders (first second : Group) : Prop where
  direct : first.direct.Perm second.direct
  keys : first.keys.Perm second.keys

namespace Group.Reorders

variable {first second : Group} {store : Store} {id : Bytes}

theorem mem_commonIds_iff (reorders : first.Reorders second) :
    id ∈ first.commonIds store ↔ id ∈ second.commonIds store := by
  have empty : first.keys = [] ↔ second.keys = [] := by
    rw [← List.length_eq_zero_iff, ← List.length_eq_zero_iff, reorders.keys.length_eq]
  rw [mem_commonIds, mem_commonIds, ne_eq, ne_eq, empty]
  simp only [reorders.keys.mem_iff]

theorem mem_jointIds_iff (reorders : first.Reorders second) :
    id ∈ first.jointIds store ↔ id ∈ second.jointIds store := by
  simp only [mem_jointIds, reorders.keys.mem_iff]

theorem tally_eq (reorders : first.Reorders second) (keyspace : Keyspace)
    {members others : List Bytes} (same : ∀ id, id ∈ members ↔ id ∈ others) :
    first.tally keyspace store members = second.tally keyspace store others := by
  refine InsertionSet.size_ofList_congr fun id => ?_
  simp only [List.mem_append, List.mem_filter, same, reorders.direct.mem_iff]

/-- Such groups count as many ids, also where all sets have to have them. -/
theorem tally_commonIds_eq (reorders : first.Reorders second) (keyspace : Keyspace)
    (store : Store) :
    first.tally keyspace store (first.commonIds store) =
      second.tally keyspace store (second.commonIds store) :=
  reorders.tally_eq keyspace fun _ => reorders.mem_commonIds_iff

theorem tally_jointIds_eq (reorders : first.Reorders second) (keyspace : Keyspace)
    (store : Store) :
    first.tally keyspace store (first.jointIds store) =
      second.tally keyspace store (second.jointIds store) :=
  reorders.tally_eq keyspace fun _ => reorders.mem_jointIds_iff

end Group.Reorders

section Groups

variable {catalogue : Catalogue} {predicates others : List Predicate}

theorem perm_indexKeys (keyspace : Keyspace) (perm : predicates.Perm others) :
    (indexKeys keyspace predicates).Perm (indexKeys keyspace others) :=
  perm.flatMap_right _

theorem reorders_anyOf (catalogue : Catalogue) (keyspace : Keyspace)
    (perm : predicates.Perm others) :
    (catalogue.anyOf keyspace predicates).Reorders (catalogue.anyOf keyspace others) where
  direct := (perm.filter _).flatMap_right _
  keys := perm_indexKeys keyspace (perm.filter _)

/-- Predicates to be met together are all looked up, unless there is just one. -/
theorem allOf_of_ne_one (catalogue : Catalogue) (keyspace : Keyspace)
    (several : predicates.length ≠ 1) :
    catalogue.allOf keyspace predicates = ⟨[], indexKeys keyspace predicates⟩ := by
  match predicates with
  | [] => rfl
  | [_] => exact absurd rfl several
  | _ :: _ :: _ => rfl

theorem reorders_allOf (catalogue : Catalogue) (keyspace : Keyspace)
    (perm : predicates.Perm others) :
    (catalogue.allOf keyspace predicates).Reorders (catalogue.allOf keyspace others) := by
  by_cases lone : predicates.length = 1
  · obtain ⟨predicate, rfl⟩ := List.length_eq_one_iff.mp lone
    rw [List.singleton_perm.mp perm]
    exact ⟨.refl _, .refl _⟩
  · rw [allOf_of_ne_one catalogue keyspace lone,
      allOf_of_ne_one catalogue keyspace (perm.length_eq ▸ lone)]
    exact ⟨.refl _, perm_indexKeys keyspace perm⟩

end Groups

/-! ## Part 2 — criteria -/

/-- **The criteria ask for the same**: they have the same predicates in each group, in whatever
order these were added, and the same circle, if any. -/
structure Criteria.Reorders (first second : Criteria) : Prop where
  all : ∀ predicate, predicate ∈ first.all ↔ predicate ∈ second.all
  any : ∀ predicate, predicate ∈ first.any ↔ predicate ∈ second.any
  near : first.near? = second.near?

namespace Criteria.Reorders

variable {first second : Criteria} {catalogue : Catalogue} {keyspace : Keyspace} {store : Store}

theorem symm (reorders : first.Reorders second) : second.Reorders first :=
  ⟨fun predicate => (reorders.all predicate).symm, fun predicate => (reorders.any predicate).symm,
    reorders.near.symm⟩

theorem perm_all (reorders : first.Reorders second) : first.all.toList.Perm second.all.toList :=
  (List.perm_ext_iff_of_nodup first.all.nodup second.all.nodup).mpr reorders.all

theorem perm_any (reorders : first.Reorders second) : first.any.toList.Perm second.any.toList :=
  (List.perm_ext_iff_of_nodup first.any.nodup second.any.nodup).mpr reorders.any

theorem isEmpty_eq (reorders : first.Reorders second) : first.isEmpty = second.isEmpty := by
  rw [Criteria.isEmpty, Criteria.isEmpty, InsertionSet.isEmpty, InsertionSet.isEmpty,
    reorders.perm_all.isEmpty_eq, reorders.perm_any.isEmpty_eq, reorders.near]
  rfl

/-- Whether all paths fit does not depend on the order; which misfit comes first may. -/
theorem fits (reorders : first.Reorders second) {schema : Schema}
    (fits : first.misfit? schema = none) : second.misfit? schema = none := by
  rw [Criteria.misfit?_eq_none_iff] at fits ⊢
  refine ⟨fun predicate asked => fits.1 predicate ?_, reorders.near ▸ fits.2⟩
  rw [List.mem_append] at asked ⊢
  exact asked.imp (reorders.all predicate).mpr (reorders.any predicate).mpr

theorem all_planOf (reorders : first.Reorders second) (catalogue : Catalogue)
    (keyspace : Keyspace) :
    (catalogue.planOf keyspace first).all.Reorders (catalogue.planOf keyspace second).all :=
  reorders_allOf catalogue keyspace reorders.perm_all

theorem any_planOf (reorders : first.Reorders second) (catalogue : Catalogue)
    (keyspace : Keyspace) :
    (catalogue.planOf keyspace first).any.Reorders (catalogue.planOf keyspace second).any :=
  reorders_anyOf catalogue keyspace reorders.perm_any

theorem closeIds_planOf (reorders : first.Reorders second) :
    (catalogue.planOf keyspace first).closeIds store =
      (catalogue.planOf keyspace second).closeIds store := by
  rw [Plan.closeIds, Plan.closeIds, Catalogue.planOf, Catalogue.planOf, reorders.near]

/-- **Reordered criteria name the same ids**, in some order. -/
theorem perm_named (reorders : first.Reorders second)
    (fits : first.misfit? catalogue.schema = none) :
    ∃ ids others, catalogue.named keyspace first store = .ok ids ∧
      catalogue.named keyspace second store = .ok others ∧ ids.Perm others := by
  rw [Catalogue.named, Catalogue.named, ← reorders.isEmpty_eq,
    Catalogue.plan_of_fits keyspace fits, Catalogue.plan_of_fits keyspace (reorders.fits fits)]
  split
  · exact ⟨_, _, rfl, rfl, .refl _⟩
  · refine ⟨_, _, rfl, rfl, InsertionSet.perm_ofList fun id => ?_⟩
    have all := reorders.all_planOf catalogue keyspace
    have any := reorders.any_planOf catalogue keyspace
    simp only [List.mem_append, all.mem_commonIds_iff, all.direct.mem_iff, any.mem_jointIds_iff,
      any.direct.mem_iff, reorders.closeIds_planOf]

/-- **Reordered criteria count as many entities.** -/
theorem exists_counted (reorders : first.Reorders second)
    (fits : first.misfit? catalogue.schema = none) :
    ∃ number, catalogue.counted keyspace first store = .ok number ∧
      catalogue.counted keyspace second store = .ok number := by
  rw [Catalogue.counted, Catalogue.counted, ← reorders.isEmpty_eq,
    Catalogue.plan_of_fits keyspace fits, Catalogue.plan_of_fits keyspace (reorders.fits fits)]
  split
  · exact ⟨_, rfl, rfl⟩
  · have all := (reorders.all_planOf catalogue keyspace).tally_commonIds_eq keyspace store
    have any := (reorders.any_planOf catalogue keyspace).tally_jointIds_eq keyspace store
    exact ⟨_, rfl, congrArg Except.ok (congrArg₂ (· + ·) all any).symm⟩

end Criteria.Reorders

/-! ## Part 3 — answers -/

section Answers

variable {catalogue : Catalogue} {keyspace : Keyspace} {criteria first second : Criteria}
  {store : Store} {ids : List Bytes}

/-- A path that misfits fails a query, and counting, too. -/
theorem eval_of_misfit {error : MappingError}
    (misfit : criteria.misfit? catalogue.schema = some error) (keyspace : Keyspace)
    (sorting : Option (Sorting Json)) (store : Store) :
    ((catalogue.findIn keyspace criteria sorting .whole).eval store).1 = .error (.mapping error) ∧
      ((catalogue.countIn keyspace criteria).eval store).1 = .error (.mapping error) := by
  rw [Catalogue.eval_findIn, Catalogue.eval_countIn, Catalogue.named, Catalogue.counted,
    Criteria.isEmpty_of_misfit misfit, Catalogue.plan_of_misfit keyspace misfit]
  exact ⟨rfl, rfl⟩

/-- Where ids are named, a query can only fail because one of them cannot be read. -/
theorem eval_findIn_ne_mapping (named : catalogue.named keyspace criteria store = .ok ids)
    (sorting : Option (Sorting Json)) (error : MappingError) :
    ((catalogue.findIn keyspace criteria sorting .whole).eval store).1 ≠
      .error (.mapping error) := by
  rw [Catalogue.eval_findIn, named]
  show (catalogue.readAll (ids.filterMap (store.get? keyspace))).map (arranged sorting) ≠ _
  cases read : catalogue.readAll (ids.filterMap (store.get? keyspace)) with
  | ok values => exact nofun
  | error reason =>
    obtain ⟨conversion, rfl⟩ := exists_of_readAll_eq_error read
    exact nofun

/-- **Reordered criteria find the same entities**, or both come upon one that cannot be read. -/
theorem Criteria.Reorders.sameFinds (reorders : first.Reorders second)
    (fits : first.misfit? catalogue.schema = none) (keyspace : Keyspace)
    (sorting : Option (Sorting Json)) (store : Store) :
    SameFinds ((catalogue.findIn keyspace first sorting .whole).eval store).1
      ((catalogue.findIn keyspace second sorting .whole).eval store).1 := by
  obtain ⟨ids, others, named, namedOther, perm⟩ := reorders.perm_named fits
  rw [Catalogue.eval_findIn, Catalogue.eval_findIn, named, namedOther]
  exact (sameFinds_readAll (perm.filterMap _)).arranged sorting

/-- What can be read is found. -/
theorem exists_found (fits : criteria.misfit? catalogue.schema = none)
    (readable : catalogue.Readable keyspace criteria store) (sorting : Option (Sorting Json)) :
    ∃ values, ((catalogue.findIn keyspace criteria sorting .whole).eval store).1 = .ok values := by
  obtain ⟨ids, named, _⟩ := catalogue.exists_named keyspace fits store
  obtain ⟨values, read, _⟩ := exists_readAll (readable ids named)
  rw [Catalogue.eval_findIn, named]
  show ∃ found, (catalogue.readAll (ids.filterMap (store.get? keyspace))).map (arranged sorting) =
    .ok found
  rw [read]
  exact ⟨_, rfl⟩

/-- **Criteria that ask for the same answer alike**, in whatever order their predicates were added,
and however often. Either both queries fail since a path misfits, and so does counting; or neither
does. Then both find the same entities in some order, unless one that they name cannot be read, and
counting comes to the same number. -/
theorem reordered_criteria_answer_alike (reorders : first.Reorders second)
    (sorting : Option (Sorting Json)) :
    (∃ error other,
      ((catalogue.findIn keyspace first sorting .whole).eval store).1 = .error (.mapping error) ∧
      ((catalogue.findIn keyspace second sorting .whole).eval store).1 = .error (.mapping other) ∧
      ((catalogue.countIn keyspace first).eval store).1 = .error (.mapping error) ∧
      ((catalogue.countIn keyspace second).eval store).1 = .error (.mapping other)) ∨
    ((∀ error,
      ((catalogue.findIn keyspace first sorting .whole).eval store).1 ≠ .error (.mapping error) ∧
      ((catalogue.findIn keyspace second sorting .whole).eval store).1 ≠
        .error (.mapping error)) ∧
      (catalogue.Readable keyspace first store → ∃ values others,
        ((catalogue.findIn keyspace first sorting .whole).eval store).1 = .ok values ∧
        ((catalogue.findIn keyspace second sorting .whole).eval store).1 = .ok others ∧
        values.Perm others) ∧
      ∃ number, ((catalogue.countIn keyspace first).eval store).1 = .ok number ∧
        ((catalogue.countIn keyspace second).eval store).1 = .ok number) := by
  cases misfit : first.misfit? catalogue.schema with
  | some error =>
    cases other : second.misfit? catalogue.schema with
    | some reason =>
      obtain ⟨found, counted⟩ := eval_of_misfit misfit keyspace sorting store
      obtain ⟨foundOther, countedOther⟩ := eval_of_misfit other keyspace sorting store
      exact .inl ⟨error, reason, found, foundOther, counted, countedOther⟩
    | none =>
      rw [reorders.symm.fits other] at misfit
      cases misfit
  | none =>
    obtain ⟨ids, others, named, namedOther, _⟩ := reorders.perm_named misfit
    refine .inr ⟨fun error => ⟨eval_findIn_ne_mapping named sorting error,
      eval_findIn_ne_mapping namedOther sorting error⟩, fun readable => ?_, ?_⟩
    · obtain ⟨values, found⟩ := exists_found misfit readable sorting
      have same := reorders.sameFinds misfit keyspace sorting store
      rw [found] at same
      cases foundOther : ((catalogue.findIn keyspace second sorting .whole).eval store).1 with
      | error error =>
        rw [foundOther] at same
        cases same
      | ok others =>
        rw [foundOther] at same
        cases same with
        | found perm => exact ⟨values, others, found, rfl, perm⟩
    · rw [Catalogue.eval_countIn, Catalogue.eval_countIn]
      exact reorders.exists_counted misfit

end Answers

/-- Towns in Tear or in Illian. -/
def townsOfTwoLands : Criteria :=
  (Criteria.empty.withAny ⟨"land", [.ofString "tear"]⟩).withAny ⟨"land", [.ofString "illian"]⟩

/-- The same, asked for in another order, and once more. -/
def townsOfTwoLandsAgain : Criteria :=
  ((Criteria.empty.withAny ⟨"land", [.ofString "illian"]⟩).withAny
    ⟨"land", [.ofString "tear"]⟩).withAny ⟨"land", [.ofString "illian"]⟩

theorem reorders_townsOfTwoLands : townsOfTwoLands.Reorders townsOfTwoLandsAgain where
  all _ := Iff.rfl
  any predicate := by
    have perm : townsOfTwoLands.any.toList.Perm townsOfTwoLandsAgain.any.toList := by decide
    exact perm.mem_iff
  near := rfl

/-- Both name the two towns, the one Tear first and the other Illian. -/
theorem named_townsOfTwoLands :
    town.catalogue.named town.schema.keyspace townsOfTwoLands
        (updates town.schema townActions).store = .ok (["tear", "illian"].map Bytes.ofString) ∧
      town.catalogue.named town.schema.keyspace townsOfTwoLandsAgain
        (updates town.schema townActions).store =
          .ok (["illian", "tear"].map Bytes.ofString) := by
  decide +kernel

theorem readable_townsOfTwoLands : town.catalogue.Readable town.schema.keyspace townsOfTwoLands
    (updates town.schema townActions).store :=
  Catalogue.readable_of_isOk named_townsOfTwoLands.1 (by decide +kernel)

theorem reordered_criteria_answer_alike_lands :
    townsOfTwoLands.Reorders townsOfTwoLandsAgain ∧
      town.catalogue.Readable town.schema.keyspace townsOfTwoLands
        (updates town.schema townActions).store ∧
      (∃ values others,
        ((town.catalogue.findIn town.schema.keyspace townsOfTwoLands none .whole).eval
          (updates town.schema townActions).store).1 = .ok values ∧
        ((town.catalogue.findIn town.schema.keyspace townsOfTwoLandsAgain none .whole).eval
          (updates town.schema townActions).store).1 = .ok others ∧ values.Perm others) ∧
      ∃ number,
        ((town.catalogue.countIn town.schema.keyspace townsOfTwoLands).eval
          (updates town.schema townActions).store).1 = .ok number ∧
        ((town.catalogue.countIn town.schema.keyspace townsOfTwoLandsAgain).eval
          (updates town.schema townActions).store).1 = .ok number := by
  refine ⟨reorders_townsOfTwoLands, readable_townsOfTwoLands, ?_⟩
  rcases @reordered_criteria_answer_alike town.catalogue town.schema.keyspace _ _
      (updates town.schema townActions).store reorders_townsOfTwoLands none with
    ⟨error, _, failed, _⟩ | ⟨_, found, counted⟩
  · exact absurd failed (eval_findIn_ne_mapping named_townsOfTwoLands.1 none error)
  · exact ⟨found readable_townsOfTwoLands, counted⟩

end SecondaryIndex
