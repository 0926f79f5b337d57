/-
**What is counted of what is found.**

Counting adds up the two groups of criteria, while a query returns what either group names, each
entity once. So an entity in both groups is counted twice:

* `exists_resolveAll`, `exists_resolveAny` — declared paths make groups;
* `Plan.Backed` — the members of all sets of a plan have entities, and `tally_eq_length` — then a
  group counts the ids that it names and that have fields, each once;
* `returnsAlone_of_plan` — what a query for one of the groups returns;
* `count_eq_found_add_overlap` — so what is counted is what is found, and once more what is in both
  groups; a circle is not counted.
-/

import Mathlib.Data.Finset.Card
import SecondaryIndex.Proofs.Collections
import SecondaryIndex.Proofs.Query.Evaluation
import SecondaryIndex.Proofs.Query.FullScan

namespace SecondaryIndex

/-! ## Part 1 — plans -/

section Plans

variable {schema : Schema} {predicates : List Predicate}

open Querying

/-- Groups are made for entities of any shape. -/
theorem exists_resolveAny (identify : IndexValue → Bytes) (keyspace : Keyspace)
    (resolves : Resolves schema predicates) :
    ∃ group, eval (Plan.resolveAny identify schema keyspace predicates) .empty =
      (.ok group, .empty) := by
  have fits : (Catalogue.mk ⟨schema, .text⟩ identify).schema.misfit? predicates = none :=
    Schema.misfit?_eq_none_iff.mpr resolves
  have settles := settles_resolveAny ⟨⟨schema, .text⟩, identify⟩ keyspace predicates
  rw [fits] at settles
  exact ⟨_, settles.eval_eq .empty⟩

theorem exists_resolveAll (identify : IndexValue → Bytes) (keyspace : Keyspace)
    (resolves : Resolves schema predicates) :
    ∃ group, eval (Plan.resolveAll identify schema keyspace predicates) .empty =
      (.ok group, .empty) := by
  have fits : (Catalogue.mk ⟨schema, .text⟩ identify).schema.misfit? predicates = none :=
    Schema.misfit?_eq_none_iff.mpr resolves
  have settles := settles_resolveAll ⟨⟨schema, .text⟩, identify⟩ keyspace predicates
  rw [fits] at settles
  exact ⟨_, settles.eval_eq .empty⟩

end Plans

/-! ## Part 2 — groups -/

/-- Those of some ids that have fields, each once. -/
def Store.filled (store : Store) (keyspace : Keyspace) (ids : List Bytes) : List Bytes :=
  (InsertionSet.ofList ids).toList.filter (store.hasFields keyspace)

/-- Nothing is in the way of reading what a plan names: each member of its sets has an entity, and
so has each id without a look-up that has fields. -/
structure Plan.Backed (catalogue : Catalogue) (keyspace : Keyspace) (store : Store)
    (plan : Plan) : Prop where
  members : ∀ key ∈ plan.all.keys ++ plan.any.keys, ∀ id ∈ store.members key,
    ∃ value, catalogue.ReadsAt keyspace store id value
  direct : ∀ id ∈ plan.all.direct ++ plan.any.direct, ∀ record,
    store.get? keyspace id = some record → ∃ value, catalogue.type.read record = .ok value

section Groups

variable {catalogue : Catalogue} {keyspace : Keyspace} {criteria : Criteria} {plan : Plan}
  {group : Group} {store : Store} {ids members : List Bytes} {id : Bytes}

theorem nodup_filled (store : Store) (keyspace : Keyspace) (ids : List Bytes) :
    (store.filled keyspace ids).Nodup :=
  (InsertionSet.nodup _).filter _

theorem mem_filled :
    id ∈ store.filled keyspace ids ↔ id ∈ ids ∧ store.hasFields keyspace id = true := by
  rw [Store.filled, List.mem_filter, ← InsertionSet.mem_def, InsertionSet.mem_ofList]

/-- **A group counts what it names**, if all members of its sets have fields: only the ids without a
look-up are asked for theirs. -/
theorem tally_eq_length (backed : ∀ id ∈ members, store.hasFields keyspace id = true) :
    group.tally keyspace store members =
      (store.filled keyspace (members ++ group.direct)).length := by
  refine List.Perm.length_eq ((List.perm_ext_iff_of_nodup (InsertionSet.nodup _)
    (nodup_filled ..)).mpr fun id => ?_)
  rw [← InsertionSet.mem_def, InsertionSet.mem_ofList, mem_filled, List.mem_append,
    List.mem_append, List.mem_filter]
  constructor
  · rintro (member | ⟨direct, filled⟩)
    · exact ⟨.inl member, backed id member⟩
    · exact ⟨.inr direct, filled⟩
  · rintro ⟨member | direct, filled⟩
    · exact .inl member
    · exact .inr ⟨direct, filled⟩

namespace Plan.Backed

theorem of_commonIds (backed : plan.Backed catalogue keyspace store)
    (listed : id ∈ plan.all.commonIds store) :
    ∃ value, catalogue.ReadsAt keyspace store id value := by
  obtain ⟨some, each⟩ := mem_commonIds.mp listed
  obtain ⟨key, asked⟩ := List.exists_mem_of_ne_nil _ some
  exact backed.members key (List.mem_append_left _ asked) id (each key asked)

theorem of_jointIds (backed : plan.Backed catalogue keyspace store)
    (listed : id ∈ plan.any.jointIds store) :
    ∃ value, catalogue.ReadsAt keyspace store id value := by
  obtain ⟨key, asked, member⟩ := mem_jointIds.mp listed
  exact backed.members key (List.mem_append_right _ asked) id member

theorem hasFields_of_commonIds (backed : plan.Backed catalogue keyspace store)
    (listed : id ∈ plan.all.commonIds store) : store.hasFields keyspace id = true := by
  obtain ⟨_, reads⟩ := backed.of_commonIds listed
  exact reads.hasFields

theorem hasFields_of_jointIds (backed : plan.Backed catalogue keyspace store)
    (listed : id ∈ plan.any.jointIds store) : store.hasFields keyspace id = true := by
  obtain ⟨_, reads⟩ := backed.of_jointIds listed
  exact reads.hasFields

/-- What has fields can be read, wherever the plan has its id from. -/
theorem readable (backed : plan.Backed catalogue keyspace store)
    (listed : id ∈ (plan.all.commonIds store ++ plan.all.direct) ++
      (plan.any.jointIds store ++ plan.any.direct)) (record : Record)
    (held : store.get? keyspace id = some record) :
    ∃ value, catalogue.type.read record = .ok value := by
  simp only [List.mem_append] at listed
  rcases listed with (common | direct) | joint | direct
  · exact (backed.of_commonIds common).imp fun _ reads => reads.read_eq held
  · exact backed.direct id (List.mem_append_left _ direct) record held
  · exact (backed.of_jointIds joint).imp fun _ reads => reads.read_eq held
  · exact backed.direct id (List.mem_append_right _ direct) record held

end Plan.Backed

/-- A plan without a circle returns what its groups name. -/
theorem returns_of_plan (planned : catalogue.plan keyspace criteria = .ok plan)
    (asking : criteria.isEmpty = false) (near : plan.near? = none)
    (named : plan.all.commonIds store ++ plan.all.direct ++
      (plan.any.jointIds store ++ plan.any.direct) = ids)
    (readable : ∀ id ∈ ids, ∀ record, store.get? keyspace id = some record →
      ∃ value, catalogue.type.read record = .ok value) :
    catalogue.Returns keyspace criteria .whole store (store.filled keyspace ids) := by
  have names : catalogue.namedOn keyspace criteria .whole store =
      .ok (InsertionSet.ofList ids).toList := by
    rw [Catalogue.namedOn_whole, Catalogue.named, asking, if_neg Bool.false_ne_true, planned,
      Except.map, Plan.found, Plan.closeIds, near, Option.elim_none, List.append_nil, named]
  refine Catalogue.returns_of_readable names fun id listed => readable id ?_
  rwa [← InsertionSet.mem_def, InsertionSet.mem_ofList] at listed

end Groups

/-! ## Part 3 — counting and finding -/

/-- What a query for one group alone returns; it is not made for an empty group. -/
def Catalogue.ReturnsAlone (catalogue : Catalogue) (keyspace : Keyspace) (group : Criteria)
    (store : Store) (ids : List Bytes) : Prop :=
  if group.isEmpty then ids = [] else catalogue.Returns keyspace group .whole store ids

section Counting

variable {catalogue : Catalogue} {keyspace : Keyspace} {criteria : Criteria} {plan : Plan}
  {store : Store} {ids : List Bytes}

theorem plan_of_isEmpty (empty : criteria.isEmpty = true) :
    catalogue.plan keyspace criteria = .ok ⟨⟨[], []⟩, ⟨[], []⟩, none⟩ := by
  obtain ⟨all, any, near?⟩ := criteria
  simp only [Criteria.isEmpty, Bool.and_eq_true, InsertionSet.isEmpty_iff,
    Option.isNone_iff_eq_none] at empty
  obtain ⟨⟨rfl, rfl⟩, rfl⟩ := empty
  rfl

theorem returnsAlone_of_plan (planned : catalogue.plan keyspace criteria = .ok plan)
    (near : plan.near? = none)
    (named : plan.all.commonIds store ++ plan.all.direct ++
      (plan.any.jointIds store ++ plan.any.direct) = ids)
    (readable : ∀ id ∈ ids, ∀ record, store.get? keyspace id = some record →
      ∃ value, catalogue.type.read record = .ok value) :
    catalogue.ReturnsAlone keyspace criteria store (store.filled keyspace ids) := by
  rw [Catalogue.ReturnsAlone]
  split
  · rename_i empty
    cases planned.symm.trans (plan_of_isEmpty empty)
    rw [← named]
    rfl
  · rename_i asking
    exact returns_of_plan planned (Bool.eq_false_iff.mpr asking) near named readable

/-- Two lists together have the members of either, and once more those of both. -/
theorem length_add_length {first second both : List Bytes} (nodupFirst : first.Nodup)
    (nodupSecond : second.Nodup) (nodupBoth : both.Nodup)
    (either : ∀ id, id ∈ both ↔ id ∈ first ∨ id ∈ second) :
    first.length + second.length = both.length + (first ∩ second).length := by
  have union : both.toFinset = first.toFinset ∪ second.toFinset := by
    ext id
    simp [either]
  have inter : (first ∩ second).toFinset = first.toFinset ∩ second.toFinset := by
    ext id
    simp
  rw [← List.toFinset_card_of_nodup nodupFirst, ← List.toFinset_card_of_nodup nodupSecond,
    ← List.toFinset_card_of_nodup nodupBoth, ← List.toFinset_card_of_nodup (nodupFirst.inter _),
    union, inter, Finset.card_union_add_card_inter]

/-- **Counting against finding.** For criteria without a circle, what is counted is what a query
returns, and once more what is in both groups. A circle beside them does not change the count. -/
theorem count_eq_found_add_overlap (near : criteria.near? = none)
    (asking : criteria.isEmpty = false)
    (resolves : Resolves catalogue.schema (criteria.all.toList ++ criteria.any.toList))
    (backed : ∀ plan, catalogue.plan keyspace criteria = .ok plan →
      plan.Backed catalogue keyspace store) :
    ∃ found all any : List Bytes, found.Nodup ∧ all.Nodup ∧ any.Nodup ∧
      catalogue.Returns keyspace criteria .whole store found ∧
      catalogue.ReturnsAlone keyspace ⟨criteria.all, ∅, none⟩ store all ∧
      catalogue.ReturnsAlone keyspace ⟨∅, criteria.any, none⟩ store any ∧
      ((catalogue.countIn keyspace criteria).eval store).1 =
        .ok (found.length + (all ∩ any).length) ∧
      ∀ near property, catalogue.schema.resolveGeo near.path = .ok property →
        ((catalogue.countIn keyspace (criteria.withNear near)).eval store).1 =
          ((catalogue.countIn keyspace criteria).eval store).1 := by
  obtain ⟨all, allIs⟩ := exists_resolveAll catalogue.identify keyspace
    fun predicate listed => resolves predicate (List.mem_append_left _ listed)
  obtain ⟨any, anyIs⟩ := exists_resolveAny catalogue.identify keyspace
    fun predicate listed => resolves predicate (List.mem_append_right _ listed)
  have planned : catalogue.plan keyspace criteria = .ok ⟨all, any, none⟩ :=
    Catalogue.plan_eq_ok allIs anyIs (by rw [near]; rfl)
  have backed := backed _ planned
  have counted : ((catalogue.countIn keyspace criteria).eval store).1 =
      .ok (all.tally keyspace store (all.commonIds store) +
        any.tally keyspace store (any.jointIds store)) := by
    rw [Catalogue.eval_countIn, Catalogue.counted, asking, if_neg Bool.false_ne_true, planned]
    rfl
  have returned := returns_of_plan planned asking rfl rfl fun _ => backed.readable
  have aloneAll : catalogue.ReturnsAlone keyspace ⟨criteria.all, ∅, none⟩ store _ :=
    returnsAlone_of_plan (Catalogue.plan_eq_ok allIs rfl rfl) rfl (List.append_nil _)
      fun _ listed => backed.readable (List.mem_append_left _ listed)
  have aloneAny : catalogue.ReturnsAlone keyspace ⟨∅, criteria.any, none⟩ store _ :=
    returnsAlone_of_plan (Catalogue.plan_eq_ok rfl anyIs rfl) rfl rfl
      fun _ listed => backed.readable (List.mem_append_right _ listed)
  refine ⟨_, _, _, nodup_filled .., nodup_filled .., nodup_filled .., returned, aloneAll, aloneAny,
    ?_, fun area property located => ?_⟩
  · rw [counted, tally_eq_length fun _ => backed.hasFields_of_commonIds,
      tally_eq_length fun _ => backed.hasFields_of_jointIds]
    refine congrArg _ (length_add_length (nodup_filled ..) (nodup_filled ..) (nodup_filled ..)
      fun id => ?_)
    rw [mem_filled, mem_filled, mem_filled, List.mem_append, or_and_right]
  · have beside : catalogue.plan keyspace (criteria.withNear area) =
        .ok ⟨all, any, some ⟨keyspace.geoKey area.path, area.circle⟩⟩ :=
      Catalogue.plan_eq_ok allIs anyIs (eval_resolveNear located)
    rw [counted, Catalogue.eval_countIn, Catalogue.counted, Criteria.isEmpty_withNear,
      if_neg Bool.false_ne_true, beside]
    rfl

end Counting

theorem backed_town (plan : Plan)
    (planned : town.catalogue.plan town.schema.keyspace townCriteria = .ok plan) :
    plan.Backed town.catalogue town.schema.keyspace (updates town.schema townActions).store := by
  have plans : town.catalogue.plan town.schema.keyspace townCriteria = .ok
      ⟨⟨[], ["towns:land:illian"].map Bytes.ofString⟩,
        ⟨["tear", "cairhien", "illian"].map Bytes.ofString, []⟩, none⟩ := by
    decide +kernel
  cases planned.symm.trans plans
  constructor
  · intro key asked id member
    have isOk : ∀ id ∈ (updates town.schema townActions).store.members
        (Bytes.ofString "towns:land:illian"),
        ((updates town.schema townActions).store.get? town.schema.keyspace id).any
          fun record => (town.read record).isOk := by
      decide +kernel
    rw [List.mem_singleton.mp asked] at member
    exact Catalogue.exists_readsAt (isOk id member)
  · intro id named record held
    have isOk : ∀ id ∈ ["tear", "cairhien", "illian"].map Bytes.ofString,
        ((updates town.schema townActions).store.get? town.schema.keyspace id).all
          fun record => (town.read record).isOk := by
      decide +kernel
    have read := isOk id named
    rw [held, Option.all_some] at read
    exact exists_of_isOk read

/-- Illian is counted twice, as a town in Illian and by its name. -/
theorem count_eq_found_add_overlap_town :
    townCriteria.near? = none ∧ townCriteria.isEmpty = false ∧
      Resolves town.schema (townCriteria.all.toList ++ townCriteria.any.toList) ∧
      ∃ found all any : List Bytes, found.Nodup ∧ all.Nodup ∧ any.Nodup ∧
        town.catalogue.Returns town.schema.keyspace townCriteria .whole
          (updates town.schema townActions).store found ∧
        town.catalogue.ReturnsAlone town.schema.keyspace ⟨townCriteria.all, ∅, none⟩
          (updates town.schema townActions).store all ∧
        town.catalogue.ReturnsAlone town.schema.keyspace ⟨∅, townCriteria.any, none⟩
          (updates town.schema townActions).store any ∧
        ((town.catalogue.countIn town.schema.keyspace townCriteria).eval
          (updates town.schema townActions).store).1 = .ok (found.length + (all ∩ any).length) ∧
        ∀ near property, town.schema.resolveGeo near.path = .ok property →
          ((town.catalogue.countIn town.schema.keyspace (townCriteria.withNear near)).eval
            (updates town.schema townActions).store).1 =
          ((town.catalogue.countIn town.schema.keyspace townCriteria).eval
            (updates town.schema townActions).store).1 := by
  have resolves : Resolves town.schema (townCriteria.all.toList ++ townCriteria.any.toList) :=
    fun predicate asked => plain_town.resolves predicate (List.mem_append.mp asked)
  exact ⟨rfl, rfl, resolves, count_eq_found_add_overlap rfl rfl resolves backed_town⟩

end SecondaryIndex
