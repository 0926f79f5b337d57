/-
**Predicates to be met together, with any number of values each.**

A predicate asks for one of its values. A group of predicates to be met together is looked up as one
list of index sets, so what is found has every value of every predicate instead:

* `Entity.CarriesOne` — the entity has one of the values of each predicate;
* `Entity.CarriesEach` — it has all values of all predicates, and some value is asked for;
* `carriesEach_iff_of_single` — that is the same where every predicate has a single value;
* `find_conjunction` — after any inserts and deletes, a query for such a group returns the current
  entities that carry each value, and all of them if the group is empty;
* `conjunction_of_lands` — a town in one of two lands is not found, as it is not in both.
-/

import SecondaryIndex.Proofs.Query.Interference

namespace SecondaryIndex

/-! ## Part 1 — one value of each predicate, and each value -/

namespace Entity

/-- For each predicate the entity has one of its values. -/
def CarriesOne (schema : Schema) (entity : Entity) (predicates : List Predicate) : Prop :=
  ∀ predicate ∈ predicates, ∃ value ∈ predicate.values, entity.Carries schema predicate.path value

/-- The entity has every value that is asked for, and there is one; or there are no predicates. -/
def CarriesEach (schema : Schema) (entity : Entity) (predicates : List Predicate) : Prop :=
  predicates = [] ∨ (∃ predicate ∈ predicates, predicate.values ≠ []) ∧
    ∀ predicate ∈ predicates, ∀ value ∈ predicate.values,
      entity.Carries schema predicate.path value

/-- With a single value for each predicate there is no difference. -/
theorem carriesEach_iff_of_single {schema : Schema} {entity : Entity} {predicates : List Predicate}
    (single : ∀ predicate ∈ predicates, ∃ value, predicate.values = [value]) :
    entity.CarriesEach schema predicates ↔ entity.CarriesOne schema predicates := by
  constructor
  · rintro (rfl | ⟨_, each⟩) predicate listed
    · cases listed
    · obtain ⟨value, values⟩ := single predicate listed
      have asked : value ∈ predicate.values := values ▸ List.mem_singleton_self value
      exact ⟨value, asked, each predicate listed value asked⟩
  · intro one
    refine or_iff_not_imp_left.mpr fun some => ⟨?_, fun predicate listed value asked => ?_⟩
    · obtain ⟨predicate, listed⟩ := List.exists_mem_of_ne_nil predicates some
      obtain ⟨value, values⟩ := single predicate listed
      exact ⟨predicate, listed, values ▸ List.cons_ne_nil value []⟩
    · obtain ⟨only, values⟩ := single predicate listed
      obtain ⟨carried, among, carries⟩ := one predicate listed
      rw [values, List.mem_singleton] at asked among
      rw [asked, ← among]
      exact carries

end Entity

/-! ## Part 2 — the ids of a group -/

/-- Criteria that ask for predicates to be met together, none of them on the id. -/
structure Criteria.Joined (schema : Schema) (criteria : Criteria) : Prop where
  any : criteria.any.toList = []
  near : criteria.near? = none
  resolves : criteria.Resolves schema
  unidentified : ∀ predicate ∈ criteria.all, schema.identifies predicate.path = false

section Ids

variable {type : EntityType} {criteria : Criteria} {predicates : List Predicate} {history : History}
  {id : Bytes}

/-- Predicates none of which is on the id are all looked up. -/
theorem together_of_unidentified {schema : Schema}
    (unidentified : ∀ predicate ∈ predicates, schema.identifies predicate.path = false) :
    Group.together schema predicates = ⟨[], indexKeys schema.keyspace predicates⟩ := by
  match predicates, unidentified with
  | [], _ => rfl
  | [predicate], unidentified =>
    rw [Group.together, Group.ofPredicates, parts_of_unidentified unidentified]
    rfl
  | first :: second :: rest, _ => rfl

/-- **What a group is looked up for**: the registered ids if it is empty, else the ids that are in
the index sets of all its values, if it has values. -/
theorem exists_ids_of_joined (joined : criteria.Joined type.schema)
    (sorting : Option (Sorting Json)) (history : History) :
    ∃ ids : List Bytes, ids.Nodup ∧
      (Querying.eval (type.catalogue.find criteria sorting .whole) history.store).1 =
        (type.catalogue.readAll (ids.filterMap (history.store.get? type.schema.keyspace))).map
          (arranged sorting) ∧
      ∀ id, id ∈ ids ↔
        (criteria.all.toList = [] ∧ id ∈ history.store.members type.schema.keyspace.registryKey) ∨
        (indexKeys type.schema.keyspace criteria.all.toList ≠ [] ∧
          ∀ key ∈ indexKeys type.schema.keyspace criteria.all.toList,
            id ∈ history.store.members key) := by
  obtain ⟨_, evaluated, _⟩ :=
    Querying.among_still (type.catalogue.find criteria sorting .whole) history
  rw [evaluated]
  by_cases none : criteria.all.toList = []
  · have asksNothing : criteria.isEmpty = true := by
      rw [Criteria.isEmpty, InsertionSet.isEmpty, InsertionSet.isEmpty, none, joined.any,
        joined.near]
      rfl
    refine ⟨(history.store.members type.schema.keyspace.registryKey).toList,
      InsertionSet.nodup _, ?_, fun id => ?_⟩
    · rw [among_find_of_isEmpty sorting asksNothing, Moment.next_still]
      rfl
    · rw [none]
      simp [indexKeys, InsertionSet.mem_def]
  · have asks : criteria.isEmpty = false := by
      rw [Criteria.isEmpty, InsertionSet.isEmpty, List.isEmpty_eq_false_iff.mpr none]
      rfl
    refine ⟨(Plan.besideNear type.schema criteria).ids history.store, InsertionSet.nodup _,
      ?_, fun id => ?_⟩
    · rw [among_find sorting asks joined.near joined.resolves, Plan.recordsAt,
        Plan.fetchAt_still, Moment.next_still, Plan.idsAt_still]
      rfl
    · rw [mem_ids, Plan.besideNear, together_of_unidentified joined.unidentified, joined.any]
      simp [Group.ofPredicates, Group.ofSelection, Selection.parts, indexKeys, none]

end Ids

/-! ## Part 3 — the entities of a group -/

/-- What is supposed of a type, of some actions and of such criteria: paths without a colon, and no
list of index keys at the key of an index set that is written to or looked up. -/
structure Conjoined (type : EntityType) (actions : List Action) (criteria : Criteria) : Prop where
  joined : criteria.Joined type.schema
  colonFree : ∀ property ∈ type.schema.properties, ColonFree property.path
  lists : ∀ key ∈ (updates type.schema actions).helperKeys,
    key ∉ (updates type.schema actions).indexKeys
  unlisted : ∀ path value, criteria.Names path value →
    type.schema.keyspace.indexKey path value.bytes ∉ (updates type.schema actions).helperKeys

section Entities

variable {type : EntityType} {actions : List Action} {criteria : Criteria} {entity : Entity}
  {write : Write}

theorem Orderly.inside_eq {keyspace : Keyspace} {history : History}
    (orderly : Orderly keyspace history) : history.inside keyspace = history :=
  List.filter_eq_self.mpr fun update listed => decide_eq_true (orderly.keyspace_eq update listed)

/-- At a path that is not of the id an entity carries what it is indexed under. -/
theorem carries_iff {schema : Schema} {path : String} {value : IndexValue}
    (written : entity.write schema = .ok write) (unidentified : schema.identifies path = false) :
    entity.Carries schema path value ↔ ⟨path, value⟩ ∈ write.indexes := by
  rw [Entity.Carries, unidentified, written]
  simp

theorem indexKeys_ne_nil_iff {keyspace : Keyspace} {predicates : List Predicate} :
    indexKeys keyspace predicates ≠ [] ↔ ∃ predicate ∈ predicates, predicate.values ≠ [] := by
  rw [indexKeys, Ne, List.flatMap_eq_nil_iff]
  simp

namespace Conjoined

theorem orderly (conjoined : Conjoined type actions criteria) :
    Orderly type.schema.keyspace (updates type.schema actions) where
  keyspace_eq _ listed := (of_mem_updates listed).1
  apart := conjoined.lists

theorem colonFree_of_mem (conjoined : Conjoined type actions criteria) {update : Update}
    (listed : update ∈ updates type.schema actions) :
    ∀ entry ∈ update.indexes, ColonFree entry.path := by
  intro entry member
  obtain ⟨value, named⟩ := (of_mem_updates listed).2 entry member
  obtain ⟨property, declared, same, _⟩ := exists_property_of_mem named
  exact same ▸ conjoined.colonFree property declared

/-- What is kept of an id is the write of the current entity, if that has fields. -/
theorem kept?_eq_some_iff (conjoined : Conjoined type actions criteria) :
    (updates type.schema actions).kept? type.schema.keyspace write.id = some write ↔
      ∃ entity, current? type.schema actions write.id = some entity ∧
        entity.write type.schema = .ok write ∧ write.record.fields.isEmpty = false := by
  rw [History.kept?_eq_some_iff, conjoined.orderly.inside_eq, standing_updates]
  constructor
  · rintro ⟨stands, filled⟩
    obtain ⟨entity, current, made⟩ := Option.bind_eq_some_iff.mp stands
    have written : entity.write type.schema = .ok write := by
      cases outcome : entity.write type.schema with
      | error error => rw [outcome] at made; cases made
      | ok held => rw [outcome] at made; cases made; rfl
    exact ⟨entity, current, written, filled⟩
  · rintro ⟨entity, current, written, filled⟩
    rw [current, Option.bind_some, written]
    exact ⟨rfl, filled⟩

/-- **The current entities of a group** are in all its index sets exactly if they carry each value.
-/
theorem mem_ids_iff (conjoined : Conjoined type actions criteria)
    (current : current? type.schema actions write.id = some entity)
    (written : entity.write type.schema = .ok write) :
    (criteria.all.toList = [] ∧ write.id ∈
        (updates type.schema actions).store.members type.schema.keyspace.registryKey) ∨
      (indexKeys type.schema.keyspace criteria.all.toList ≠ [] ∧
        ∀ key ∈ indexKeys type.schema.keyspace criteria.all.toList,
          write.id ∈ (updates type.schema actions).store.members key) ↔
      entity.CarriesEach type.schema criteria.all.toList := by
  have stands : (updates type.schema actions).standing write.id = some write := by
    rw [standing_updates, current, Option.bind_some, written]
    rfl
  have registered : write.id ∈
      (updates type.schema actions).store.members type.schema.keyspace.registryKey :=
    conjoined.orderly.mem_registry_store.mpr (by rw [stands]; rfl)
  have indexed : ∀ predicate ∈ criteria.all.toList, ∀ value ∈ predicate.values,
      (write.id ∈ (updates type.schema actions).store.members
          (type.schema.keyspace.indexKey predicate.path value.bytes) ↔
        entity.Carries type.schema predicate.path value) := by
    intro predicate listed value named
    obtain ⟨property, resolved⟩ := conjoined.joined.resolves predicate (.inl listed)
    obtain ⟨declared, samePath, _⟩ := Schema.resolve_eq_ok resolved
    rw [conjoined.orderly.mem_indexKey_store (fun _ => conjoined.colonFree_of_mem)
        (samePath ▸ conjoined.colonFree property declared) value
        (conjoined.unlisted _ _ ⟨predicate, .inl listed, rfl, named⟩),
      carries_iff written (conjoined.joined.unidentified predicate listed), stands]
    simp
  rw [Entity.CarriesEach, indexKeys_ne_nil_iff, and_iff_left registered]
  refine or_congr_right (and_congr_right fun _ => ⟨fun every => ?_, fun every => ?_⟩)
  · intro predicate listed value named
    exact (indexed predicate listed value named).mp
      (every _ (mem_indexKeys.mpr ⟨predicate, listed, value, named, rfl⟩))
  · intro key named
    obtain ⟨predicate, listed, value, asked, rfl⟩ := mem_indexKeys.mp named
    exact (indexed predicate listed value asked).mpr (every predicate listed value asked)

end Conjoined

/-- **Predicates to be met together.** After any inserts and deletes, a query for them returns the
current entities with fields that carry every value of every predicate. Where each predicate has a
single value, these are the ones that carry one value of each. -/
theorem find_conjunction (label : String) (conjoined : Conjoined type actions criteria)
    (sorting : Option (Sorting Json)) :
    ∃ found : List Write,
      (((Session.inProcess label).performAll type actions).hold
        (type.catalogue.find criteria sorting .whole)).1 =
          (type.catalogue.readAll (found.map Write.record)).map (arranged sorting) ∧
      (found.map Write.id).Nodup ∧
      (∀ write, write ∈ found ↔
        ∃ entity, current? type.schema actions write.id = some entity ∧
          entity.write type.schema = .ok write ∧ write.record.fields.isEmpty = false ∧
          entity.CarriesEach type.schema criteria.all.toList) ∧
      ((∀ predicate ∈ criteria.all, ∃ value, predicate.values = [value]) →
        ∀ entity : Entity, entity.CarriesEach type.schema criteria.all.toList ↔
          entity.CarriesOne type.schema criteria.all.toList) := by
  have keeps := Session.keeps_performAll type label actions
  obtain ⟨ids, nodup, evaluated, listed⟩ :=
    exists_ids_of_joined conjoined.joined sorting (updates type.schema actions)
  have neighbourly := Neighbourly.of_orderly conjoined.orderly
  refine ⟨ids.filterMap ((updates type.schema actions).kept? type.schema.keyspace), ?_, ?_,
    fun write => ?_, fun single _ => Entity.carriesEach_iff_of_single single⟩
  · rw [(Session.hold_eval keeps _).1, evaluated, List.map_filterMap]
    congr 2
    exact List.filterMap_congr fun id _ => neighbourly.get?_store id
  · exact History.nodup_filterMap_kept? nodup
  · rw [History.mem_filterMap_kept?, listed, conjoined.kept?_eq_some_iff]
    constructor
    · rintro ⟨named, entity, current, written, filled⟩
      exact ⟨entity, current, written, filled, (conjoined.mem_ids_iff current written).mp named⟩
    · rintro ⟨entity, current, written, filled, carries⟩
      exact ⟨(conjoined.mem_ids_iff current written).mpr carries, entity, current, written, filled⟩

end Entities

/-- Towns in one of two lands. -/
def landsCriteria : Criteria :=
  Criteria.empty.withAll ⟨"land", [.ofString "illian", .ofString "tear"]⟩

theorem conjoined_lands : Conjoined town townActions landsCriteria where
  joined := {
    any := rfl
    near := rfl
    resolves := by
      have declared : ∀ predicate ∈ landsCriteria.all.toList ++ landsCriteria.any.toList,
          (town.schema.resolve predicate.path).isOk := by decide
      exact fun predicate asked => exists_of_isOk (declared predicate (List.mem_append.mpr asked))
    unidentified := by decide }
  colonFree := by decide
  lists := by decide
  unlisted := by
    have free : ∀ predicate ∈ landsCriteria.all.toList ++ landsCriteria.any.toList,
        ∀ value ∈ predicate.values, town.schema.keyspace.indexKey predicate.path value.bytes ∉
          (updates town.schema townActions).helperKeys := by decide
    rintro path value ⟨predicate, either, rfl, named⟩
    exact free predicate (List.mem_append.mpr either) value named

theorem find_conjunction_lands :
    Conjoined town townActions landsCriteria ∧
      ∃ found : List Write,
        (((Session.inProcess "memory").performAll town townActions).hold
          (town.catalogue.find landsCriteria none .whole)).1 =
            (town.catalogue.readAll (found.map Write.record)).map (arranged none) ∧
        (found.map Write.id).Nodup ∧
        (∀ write, write ∈ found ↔
          ∃ entity, current? town.schema townActions write.id = some entity ∧
            entity.write town.schema = .ok write ∧ write.record.fields.isEmpty = false ∧
            entity.CarriesEach town.schema landsCriteria.all.toList) ∧
        ((∀ predicate ∈ landsCriteria.all, ∃ value, predicate.values = [value]) →
          ∀ entity : Entity, entity.CarriesEach town.schema landsCriteria.all.toList ↔
            entity.CarriesOne town.schema landsCriteria.all.toList) :=
  ⟨conjoined_lands, find_conjunction "memory" conjoined_lands none⟩

/-- **A town in one of two lands is not found.** It carries one of the values that the predicate
asks for, and nothing is returned. -/
theorem conjunction_of_lands :
    Conjoined town townActions landsCriteria ∧
      (∃ entity write, current? town.schema townActions (Bytes.ofString "tear") = some entity ∧
        entity.write town.schema = .ok write ∧ write.record.fields.isEmpty = false ∧
        (∃ value, town.read write.record = .ok value) ∧
        entity.CarriesOne town.schema landsCriteria.all.toList) ∧
      (((Session.inProcess "memory").performAll town townActions).hold
        (town.catalogue.find landsCriteria none .whole)).1 = .ok [] := by
  refine ⟨conjoined_lands, ⟨townIn "tear" "tear", _, rfl, rfl, by decide +kernel, ?_, ?_⟩, ?_⟩
  · exact exists_of_isOk (by decide +kernel)
  · intro predicate listed
    rw [List.mem_singleton.mp listed]
    exact ⟨.ofString "tear", by decide, .inr ⟨_, rfl, by decide⟩⟩
  · decide +kernel

end SecondaryIndex
