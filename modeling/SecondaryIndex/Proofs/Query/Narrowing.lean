/-
**One more predicate to be met narrows what is found, one more that is enough widens it.**

The predicate may turn the group that it joins into another kind of group: a lone one to be met
names ids or asks one set, several are looked up in all their sets. What the groups name is compared
set by set:

* `Plan.Within` — each part of a plan names no more than that of another, whatever the store holds,
  and then so do the whole plans (`Plan.Within.found_subset`, `Plan.Within.tally_le`);
* `within_withAll` — predicates to be met, none of them on the id and all with values, make up a
  group that only narrows; `within_withAny` — a group of which one predicate is enough only widens;
* `misfit?_withAll`, `misfit?_withAny` — a declared path changes nothing about which path misfits;
* `all_narrows_any_widens` — so a query finds less for the one, and more for the other, and counting
  comes to no more, and to no less.
-/

import SecondaryIndex.Proofs.Query.Registered
import SecondaryIndex.Proofs.Query.Reordering

namespace SecondaryIndex

/-! ## Part 1 — plans -/

/-- Each part of the one plan names ids that the same part of the other names. -/
structure Plan.Within (store : Store) (narrow wide : Plan) : Prop where
  common : narrow.all.commonIds store ⊆ wide.all.commonIds store
  directAll : narrow.all.direct ⊆ wide.all.direct
  joint : narrow.any.jointIds store ⊆ wide.any.jointIds store
  directAny : narrow.any.direct ⊆ wide.any.direct
  near : narrow.near? = wide.near?

section Plans

variable {store : Store} {narrow wide : Plan} {fewer more : Group} {members others : List Bytes}

/-- The more sets a group asks for, the fewer ids all of them have; but without any set it has no
ids at all. -/
theorem commonIds_subset (asks : fewer.keys ≠ []) (keys : fewer.keys ⊆ more.keys) :
    more.commonIds store ⊆ fewer.commonIds store := by
  intro id listed
  rw [mem_commonIds] at listed ⊢
  exact ⟨asks, fun key asked => listed.2 key (keys asked)⟩

theorem jointIds_subset (keys : fewer.keys ⊆ more.keys) :
    fewer.jointIds store ⊆ more.jointIds store := by
  intro id listed
  rw [mem_jointIds] at listed ⊢
  obtain ⟨key, asked, member⟩ := listed
  exact ⟨key, keys asked, member⟩

theorem Group.tally_le (keyspace : Keyspace) (direct : fewer.direct ⊆ more.direct)
    (among : members ⊆ others) :
    fewer.tally keyspace store members ≤ more.tally keyspace store others := by
  refine InsertionSet.size_ofList_le fun id listed => ?_
  rw [List.mem_append, List.mem_filter] at listed ⊢
  exact listed.imp (@among id) (And.imp_left (@direct id))

theorem Plan.Within.refl (store : Store) (plan : Plan) : plan.Within store plan :=
  ⟨List.Subset.refl _, List.Subset.refl _, List.Subset.refl _, List.Subset.refl _, rfl⟩

/-- **What is named in each part is named as a whole.** -/
theorem Plan.Within.found_subset (within : narrow.Within store wide) :
    narrow.found store ⊆ wide.found store := by
  refine InsertionSet.toList_ofList_subset fun id listed => ?_
  rw [Plan.closeIds, within.near] at listed
  simp only [List.mem_append] at listed ⊢
  rcases listed with ((common | direct) | joint | direct) | close
  · exact .inl (.inl (.inl (within.common common)))
  · exact .inl (.inl (.inr (within.directAll direct)))
  · exact .inl (.inr (.inl (within.joint joint)))
  · exact .inl (.inr (.inr (within.directAny direct)))
  · exact .inr close

theorem Plan.Within.tally_le (within : narrow.Within store wide) (keyspace : Keyspace) :
    narrow.all.tally keyspace store (narrow.all.commonIds store) +
        narrow.any.tally keyspace store (narrow.any.jointIds store) ≤
      wide.all.tally keyspace store (wide.all.commonIds store) +
        wide.any.tally keyspace store (wide.any.jointIds store) :=
  Nat.add_le_add (Group.tally_le keyspace within.directAll within.common)
    (Group.tally_le keyspace within.directAny within.joint)

end Plans

/-! ## Part 2 — one more predicate -/

section Predicates

variable {catalogue : Catalogue} {keyspace : Keyspace} {store : Store} {criteria : Criteria}
  {predicate : Predicate} {predicates others : List Predicate} {property : Property}

theorem indexKeys_subset (keyspace : Keyspace) (among : predicates ⊆ others) :
    indexKeys keyspace predicates ⊆ indexKeys keyspace others := by
  intro key asked
  obtain ⟨predicate, listed, value⟩ := List.mem_flatMap.mp asked
  exact List.mem_flatMap.mpr ⟨predicate, among listed, value⟩

/-- Predicates to be met, none of which is on the id, are all looked up, also a lone one. -/
theorem allOf_of_unidentified (catalogue : Catalogue) (keyspace : Keyspace)
    (unidentified : ∀ predicate ∈ predicates,
      catalogue.schema.identifies predicate.path = false) :
    catalogue.allOf keyspace predicates = ⟨[], indexKeys keyspace predicates⟩ := by
  by_cases lone : predicates.length = 1
  · obtain ⟨predicate, rfl⟩ := List.length_eq_one_iff.mp lone
    have role := unidentified predicate List.mem_cons_self
    simp [Catalogue.allOf, Catalogue.anyOf, Catalogue.idsAsked, role]
  · exact allOf_of_ne_one catalogue keyspace lone

/-- **One more predicate to be met narrows the plan.** -/
theorem within_withAll (asks : criteria.all.isEmpty = false)
    (looked : ∀ asked ∈ criteria.all,
      catalogue.schema.identifies asked.path = false ∧ asked.values ≠ [])
    (keyspace : Keyspace) (store : Store) (predicate : Predicate) :
    (catalogue.planOf keyspace (criteria.withAll predicate)).Within store
      (catalogue.planOf keyspace criteria) := by
  rcases criteria.all.toList_insert_eq predicate with known | fresh
  · have same : criteria.withAll predicate = criteria := by
      rw [Criteria.withAll, InsertionSet.ext known]
    rw [same]
    exact .refl store _
  · obtain ⟨first, rest, listed⟩ : ∃ first rest, criteria.all.toList = first :: rest :=
      List.exists_cons_of_ne_nil fun none => by simp [InsertionSet.isEmpty, none] at asks
    have wide : catalogue.allOf keyspace criteria.all.toList =
        ⟨[], indexKeys keyspace criteria.all.toList⟩ :=
      allOf_of_unidentified catalogue keyspace fun asked named => (looked asked named).1
    -- there was a predicate already, so all are looked up now, whatever the new one is on
    have narrow : catalogue.allOf keyspace (criteria.all.insert predicate).toList =
        ⟨[], indexKeys keyspace (criteria.all.toList ++ [predicate])⟩ := by
      rw [fresh]
      refine allOf_of_ne_one catalogue keyspace ?_
      simp [listed]
    have keys : indexKeys keyspace criteria.all.toList ≠ [] := by
      have member : first ∈ criteria.all := by
        rw [InsertionSet.mem_def, listed]
        exact List.mem_cons_self
      obtain ⟨value, _, some⟩ := List.exists_cons_of_ne_nil (looked first member).2
      rw [listed]
      simp [indexKeys, some]
    constructor
    · show (catalogue.allOf keyspace (criteria.all.insert predicate).toList).commonIds store ⊆
        (catalogue.allOf keyspace criteria.all.toList).commonIds store
      rw [narrow, wide]
      exact commonIds_subset keys (indexKeys_subset keyspace (List.subset_append_left _ _))
    · show (catalogue.allOf keyspace (criteria.all.insert predicate).toList).direct ⊆ _
      rw [narrow]
      exact List.nil_subset _
    · exact List.Subset.refl _
    · exact List.Subset.refl _
    · rfl

/-- **One more predicate that is enough widens the plan.** -/
theorem within_withAny (catalogue : Catalogue) (keyspace : Keyspace) (store : Store)
    (criteria : Criteria) (predicate : Predicate) :
    (catalogue.planOf keyspace criteria).Within store
      (catalogue.planOf keyspace (criteria.withAny predicate)) := by
  have among : criteria.any.toList ⊆ (criteria.any.insert predicate).toList := fun asked listed =>
    InsertionSet.mem_insert.mpr (.inl listed)
  have chosen (test : Predicate → Bool) :
      criteria.any.toList.filter test ⊆ (criteria.any.insert predicate).toList.filter test :=
    fun asked listed => List.mem_filter.mpr ((List.mem_filter.mp listed).imp_left (@among asked))
  constructor
  · exact List.Subset.refl _
  · exact List.Subset.refl _
  · exact jointIds_subset (indexKeys_subset keyspace (chosen _))
  · intro id named
    obtain ⟨asked, listed, value⟩ := List.mem_flatMap.mp named
    exact List.mem_flatMap.mpr ⟨asked, chosen _ listed, value⟩
  · rfl

theorem misfit?_insert {schema : Schema} (declared : schema.resolve predicate.path = .ok property)
    (group : InsertionSet Predicate) :
    schema.misfit? (group.insert predicate).toList = schema.misfit? group.toList := by
  rcases group.toList_insert_eq predicate with known | fresh
  · rw [known]
  · rw [fresh, Schema.misfit?, List.findSome?_append, List.findSome?_singleton, declared]
    exact Option.or_none

/-- A declared path is never the one that misfits. -/
theorem misfit?_withAll {schema : Schema} (declared : schema.resolve predicate.path = .ok property)
    (criteria : Criteria) :
    (criteria.withAll predicate).misfit? schema = criteria.misfit? schema := by
  rw [Criteria.misfit?, Criteria.withAll, misfit?_insert declared]
  rfl

theorem misfit?_withAny {schema : Schema} (declared : schema.resolve predicate.path = .ok property)
    (criteria : Criteria) :
    (criteria.withAny predicate).misfit? schema = criteria.misfit? schema := by
  rw [Criteria.misfit?, Criteria.withAny, misfit?_insert declared]
  rfl

end Predicates

/-! ## Part 3 — answers -/

/-- **The answers to the one criteria are within those to the other.** Either a path misfits in both,
and queries and counting fail alike; or no more is counted for the one, and if what the other names
can be read, then both queries return, and all that the one returns the other returns, too. -/
def Catalogue.AnswersWithin (catalogue : Catalogue) (keyspace : Keyspace) (store : Store)
    (narrow wide : Criteria) : Prop :=
  (∃ error, ∀ criteria ∈ [narrow, wide],
    ((catalogue.findIn keyspace criteria none .whole).eval store).1 = .error (.mapping error) ∧
    ((catalogue.countIn keyspace criteria).eval store).1 = .error (.mapping error)) ∨
  ((catalogue.Readable keyspace wide store → ∃ fewer more : List Bytes,
      catalogue.Returns keyspace narrow .whole store fewer ∧
      catalogue.Returns keyspace wide .whole store more ∧ fewer ⊆ more) ∧
    ∃ fewer more, ((catalogue.countIn keyspace narrow).eval store).1 = .ok fewer ∧
      ((catalogue.countIn keyspace wide).eval store).1 = .ok more ∧ fewer ≤ more)

section Answers

variable {catalogue : Catalogue} {keyspace : Keyspace} {store : Store} {narrow wide : Criteria}
  {predicate : Predicate} {property : Property}

theorem Catalogue.named_of_fits {criteria : Criteria} (asking : criteria.isEmpty = false)
    (fits : criteria.misfit? catalogue.schema = none) :
    catalogue.named keyspace criteria store =
      .ok ((catalogue.planOf keyspace criteria).found store) := by
  rw [named, asking, if_neg Bool.false_ne_true, plan_of_fits keyspace fits]
  rfl

/-- A plan within another answers within it. -/
theorem answersWithin_of_plans
    (within : (catalogue.planOf keyspace narrow).Within store (catalogue.planOf keyspace wide))
    (misfit : narrow.misfit? catalogue.schema = wide.misfit? catalogue.schema)
    (askingNarrow : narrow.isEmpty = false) (askingWide : wide.isEmpty = false) :
    catalogue.AnswersWithin keyspace store narrow wide := by
  cases fits : wide.misfit? catalogue.schema with
  | some error =>
    rw [fits] at misfit
    refine .inl ⟨error, fun criteria either => ?_⟩
    simp only [List.mem_cons, List.not_mem_nil, or_false] at either
    rcases either with rfl | rfl
    · exact eval_of_misfit misfit keyspace none store
    · exact eval_of_misfit fits keyspace none store
  | none =>
    rw [fits] at misfit
    have namedNarrow := @Catalogue.named_of_fits catalogue keyspace store narrow askingNarrow misfit
    have namedWide := @Catalogue.named_of_fits catalogue keyspace store wide askingWide fits
    refine .inr ⟨fun readable => ?_, ?_⟩
    · have found := within.found_subset
      refine ⟨_, _, Catalogue.returns_of_readable ((catalogue.namedOn_whole ..).trans namedNarrow)
        fun id listed => readable _ namedWide id (found listed),
        Catalogue.returns_of_readable ((catalogue.namedOn_whole ..).trans namedWide)
          (readable _ namedWide), fun id listed => ?_⟩
      obtain ⟨named, filled⟩ := List.mem_filter.mp listed
      exact List.mem_filter.mpr ⟨found named, filled⟩
    · rw [Catalogue.eval_countIn, Catalogue.eval_countIn, Catalogue.counted, Catalogue.counted,
        askingNarrow, askingWide, if_neg Bool.false_ne_true, if_neg Bool.false_ne_true,
        Catalogue.plan_of_fits keyspace misfit, Catalogue.plan_of_fits keyspace fits]
      exact ⟨_, _, rfl, rfl, within.tally_le keyspace⟩

/-- Criteria have one answer. -/
theorem Catalogue.Returns.unique {criteria : Criteria} {page : Page} {ids others : List Bytes}
    (returns : catalogue.Returns keyspace criteria page store ids)
    (again : catalogue.Returns keyspace criteria page store others) : ids = others :=
  Except.ok.inj (returns.named.symm.trans again.named)

/-- Where all paths fit, nothing fails. -/
theorem Catalogue.AnswersWithin.of_fits (within : catalogue.AnswersWithin keyspace store narrow wide)
    (asking : wide.isEmpty = false) (fits : wide.misfit? catalogue.schema = none) :
    (catalogue.Readable keyspace wide store → ∃ fewer more : List Bytes,
        catalogue.Returns keyspace narrow .whole store fewer ∧
        catalogue.Returns keyspace wide .whole store more ∧ fewer ⊆ more) ∧
      ∃ fewer more, ((catalogue.countIn keyspace narrow).eval store).1 = .ok fewer ∧
        ((catalogue.countIn keyspace wide).eval store).1 = .ok more ∧ fewer ≤ more := by
  rcases within with ⟨error, fails⟩ | answers
  · have failed := (fails wide (List.mem_cons_of_mem _ List.mem_cons_self)).1
    exact absurd failed (eval_findIn_ne_mapping (Catalogue.named_of_fits asking fits) none error)
  · exact answers

/-- **A predicate with a declared path narrows what it has to be met with, and widens what it is
enough for.** To be narrowed, criteria need predicates to be met, each with a value and none on the
id; to be widened, they need only ask for something. -/
theorem all_narrows_any_widens
    (declared : catalogue.schema.resolve predicate.path = .ok property) (keyspace : Keyspace)
    (store : Store) :
    (∀ criteria : Criteria, criteria.all.isEmpty = false →
      (∀ asked ∈ criteria.all,
        catalogue.schema.identifies asked.path = false ∧ asked.values ≠ []) →
      catalogue.AnswersWithin keyspace store (criteria.withAll predicate) criteria) ∧
    ∀ criteria : Criteria, criteria.isEmpty = false →
      catalogue.AnswersWithin keyspace store criteria (criteria.withAny predicate) := by
  constructor
  · intro criteria asks looked
    refine answersWithin_of_plans (within_withAll asks looked keyspace store predicate)
      (misfit?_withAll declared criteria) ?_ ?_
    · simp [Criteria.isEmpty, Criteria.withAll, InsertionSet.isEmpty_insert]
    · simp [Criteria.isEmpty, asks]
  · intro criteria asking
    refine answersWithin_of_plans (within_withAny catalogue keyspace store criteria predicate)
      (misfit?_withAny declared criteria).symm asking ?_
    simp [Criteria.isEmpty, Criteria.withAny, InsertionSet.isEmpty_insert]

end Answers

/-- Towns in Illian. -/
def townsOfIllian : Criteria :=
  Criteria.empty.withAll ⟨"land", [.ofString "illian"]⟩

/-- Tear, or Illian. -/
def tearOrIllian : Predicate :=
  ⟨"id", [.ofString "tear", .ofString "illian"]⟩

theorem readable_updates_town (criteria : Criteria) :
    town.catalogue.Readable town.schema.keyspace criteria
      (updates town.schema townActions).store := by
  intro ids named id listed record held
  refine readable_of_inserted (fun entity inserted write written => ?_) id record held
  obtain ⟨-, value, read⟩ := stored_town entity inserted write written
  have same : town.catalogue.type.read write.record = .ok value := read
  rw [same]
  exact .inr rfl

/-- Illian alone is found in Illian, and nothing where its name has to be met, too: no town is
indexed under its name. Where a name is enough, both towns are found. -/
theorem all_narrows_any_widens_illian :
    town.schema.resolve tearOrIllian.path = .ok ⟨"id", .identifier⟩ ∧
      townsOfIllian.all.isEmpty = false ∧
      (∀ asked ∈ townsOfIllian.all,
        town.schema.identifies asked.path = false ∧ asked.values ≠ []) ∧
      townsOfIllian.isEmpty = false ∧
      ∃ none some both : List Bytes,
        town.catalogue.Returns town.schema.keyspace (townsOfIllian.withAll tearOrIllian) .whole
          (updates town.schema townActions).store none ∧
        town.catalogue.Returns town.schema.keyspace townsOfIllian .whole
          (updates town.schema townActions).store some ∧
        town.catalogue.Returns town.schema.keyspace (townsOfIllian.withAny tearOrIllian) .whole
          (updates town.schema townActions).store both ∧
        none ⊆ some ∧ some ⊆ both := by
  have declared : town.schema.resolve tearOrIllian.path = .ok ⟨"id", .identifier⟩ := by decide
  have asks : townsOfIllian.all.isEmpty = false := by decide
  have asking : townsOfIllian.isEmpty = false := by decide
  have looked : ∀ asked ∈ townsOfIllian.all.toList,
      town.schema.identifies asked.path = false ∧ asked.values ≠ [] := by decide
  obtain ⟨narrows, widens⟩ := @all_narrows_any_widens town.catalogue tearOrIllian _ declared
    town.schema.keyspace (updates town.schema townActions).store
  obtain ⟨none, some, foundNone, foundSome, fewer⟩ :=
    ((narrows townsOfIllian asks looked).of_fits asking (by decide)).1 (readable_updates_town _)
  obtain ⟨some', both, foundSome', foundBoth, more⟩ :=
    ((widens townsOfIllian asking).of_fits (by decide) (by decide)).1 (readable_updates_town _)
  obtain rfl : some = some' := foundSome.unique foundSome'
  exact ⟨declared, asks, looked, asking, none, some, both, foundNone, foundSome, foundBoth, fewer,
    more⟩

end SecondaryIndex
