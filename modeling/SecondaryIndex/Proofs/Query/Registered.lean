/-
**What is registered, and what of it is found.**

Every entity that is stored is registered under its id, but fields are kept only if there are any.
An entity all of whose leaves are null has none: it is counted, and never found:

* `Entity.Bare` — an entity no leaf of which is kept, and `isEmpty_fields_iff` — such an entity is
  written without fields;
* `get?_updates_iff` — what a store has for an id is the record of the current entity, unless that
  is bare;
* `eval_findById` — an entity is looked for by its id in its record;
* `count_eq_found_add_bare` — so the count is of the entities that are found and of the bare ones.
-/

import SecondaryIndex.Proofs.Collections
import SecondaryIndex.Proofs.Query.Evaluation
import SecondaryIndex.Proofs.Query.FullScan

namespace SecondaryIndex

/-! ## Part 1 — entities without fields -/

/-- No leaf of the entity is kept: it is empty, or all of its leaves are null. -/
def Entity.Bare (entity : Entity) : Prop :=
  ∃ value, entity.form = .ok value ∧ leaves "" value = []

section Fields

variable {schema : Schema} {actions : List Action} {entity : Entity} {write : Write} {id : Bytes}
  {record : Record}

theorem Entity.isEmpty_fields_iff (written : entity.write schema = .ok write) :
    write.record.fields.isEmpty = true ↔ entity.Bare := by
  obtain ⟨value, positions, formed, -, -, rfl⟩ := Entity.of_write written
  have fields : (flatten value).isEmpty = true ↔ leaves "" value = [] := by
    rw [flatten, ByteMap.isEmpty_ofList, List.isEmpty_iff, List.map_eq_nil_iff]
  refine fields.trans ⟨fun none => ⟨value, formed, none⟩, ?_⟩
  rintro ⟨held, heldFormed, none⟩
  cases formed.symm.trans heldFormed
  exact none

theorem within_updates (schema : Schema) (actions : List Action) :
    (updates schema actions).Within schema.keyspace :=
  fun _ listed => (of_mem_updates listed).1

/-- **The registry** holds the ids of the current entities. -/
theorem mem_registry_updates_iff :
    id ∈ (updates schema actions).store.members schema.keyspace.registryKey ↔
      ∃ entity, current? schema actions id = some entity := by
  rw [(within_updates schema actions).mem_registry_store, standing_updates]
  cases current : current? schema actions id with
  | none => simp
  | some entity =>
    obtain ⟨_, _, write, written⟩ := of_current? current
    simp [written, Except.toOption]

/-- A current entity has a record in the store, unless it is bare. -/
theorem get?_updates_of_current? (current : current? schema actions id = some entity)
    (written : entity.write schema = .ok write) :
    (updates schema actions).store.get? schema.keyspace id =
      if write.record.fields.isEmpty then none else some write.record := by
  have fields : _ = ((updates schema actions).standing id).bind Write.stored? :=
    (within_updates schema actions).get?_fields_store
  obtain ⟨_, same, _⟩ := of_current? current
  obtain ⟨value, positions, -, -, -, rfl⟩ := Entity.of_write written
  rw [standing_updates, current, Option.bind_some, written] at fields
  rw [Store.get?, Store.fieldsAt, fields, ← same]
  simp only [Except.toOption, Option.bind_some, Write.stored?]
  split
  · rfl
  · rename_i some
    exact if_neg some

/-- **What a store has for an id** is the record of its current entity, unless that is bare. -/
theorem get?_updates_iff :
    (updates schema actions).store.get? schema.keyspace id = some record ↔
      ∃ entity write, current? schema actions id = some entity ∧ ¬ entity.Bare ∧
        entity.write schema = .ok write ∧ write.record = record := by
  cases current : current? schema actions id with
  | none =>
    have fields : _ = ((updates schema actions).standing id).bind Write.stored? :=
      (within_updates schema actions).get?_fields_store
    rw [standing_updates, current] at fields
    rw [Store.get?, Store.fieldsAt, fields]
    constructor
    · rintro ⟨⟩
    · rintro ⟨_, _, ⟨⟩, _⟩
  | some entity =>
    obtain ⟨_, _, write, written⟩ := of_current? current
    rw [get?_updates_of_current? current written]
    split
    · rename_i none
      constructor
      · rintro ⟨⟩
      · rintro ⟨_, _, ⟨⟩, filled, _⟩
        exact (filled ((Entity.isEmpty_fields_iff written).mp none)).elim
    · rename_i some
      have filled : ¬ entity.Bare := fun bare => some ((Entity.isEmpty_fields_iff written).mpr bare)
      constructor
      · rintro ⟨⟩
        exact ⟨entity, write, rfl, filled, written, rfl⟩
      · rintro ⟨_, held, ⟨⟩, _, heldWritten, rfl⟩
        cases written.symm.trans heldWritten
        rfl

theorem hasFields_updates_iff :
    (updates schema actions).store.hasFields schema.keyspace id = true ↔
      ∃ entity, current? schema actions id = some entity ∧ ¬ entity.Bare := by
  rw [Store.hasFields_iff]
  constructor
  · rintro ⟨record, held⟩
    obtain ⟨entity, write, current, filled, _⟩ := get?_updates_iff.mp held
    exact ⟨entity, current, filled⟩
  · rintro ⟨entity, current, filled⟩
    obtain ⟨_, _, write, written⟩ := of_current? current
    exact ⟨_, get?_updates_iff.mpr ⟨entity, write, current, filled, written, rfl⟩⟩

end Fields

/-! ## Part 2 — what is counted and what is found -/

section Counted

variable {type : EntityType} {actions : List Action} {id : Bytes} {value : Json}

open Querying in
theorem Catalogue.eval_findById_of_none {catalogue : Catalogue} {id : IndexValue} {store : Store}
    (held : store.get? catalogue.keyspace (catalogue.identify id) = none) :
    ((catalogue.findById id).eval store).1 = .ok none := by
  have fetched : eval (call (.get catalogue.keyspace (catalogue.identify id))) store =
      (.ok (store.get? catalogue.keyspace (catalogue.identify id)), store) := rfl
  rw [held] at fetched
  exact congrArg Prod.fst (eval_bind_ok fetched)

open Querying in
theorem Catalogue.ReadsAt.eval_findById {catalogue : Catalogue} {id : IndexValue} {store : Store}
    (reads : catalogue.ReadsAt catalogue.keyspace store (catalogue.identify id) value) :
    ((catalogue.findById id).eval store).1 = .ok (some value) := by
  obtain ⟨record, held, read⟩ := reads
  have fetched : eval (call (.get catalogue.keyspace (catalogue.identify id))) store =
      (.ok (store.get? catalogue.keyspace (catalogue.identify id)), store) := rfl
  have loaded : eval (catalogue.load record) store = (.ok value, store) := by
    rw [load, eval_ofExcept, read]
    rfl
  rw [held] at fetched
  exact (congrArg Prod.fst (eval_bind_ok fetched)).trans (congrArg Prod.fst (eval_bind_ok loaded))

/-- **What is counted** without criteria are the entities that are found, by a query for everything
and by their ids, and besides them those that are bare, which are not found. -/
theorem count_eq_found_add_bare (label : String)
    (readable : ∀ id record,
      (updates type.schema actions).store.get? type.schema.keyspace id = some record →
        ∃ value, type.read record = .ok value) :
    ∃ (found bare : List Bytes) (values : List Json), (found ++ bare).Nodup ∧
      (∀ id, id ∈ found ↔
        ∃ entity, current? type.schema actions id = some entity ∧ ¬ entity.Bare) ∧
      (∀ id, id ∈ bare ↔
        ∃ entity, current? type.schema actions id = some entity ∧ entity.Bare) ∧
      (((Session.inProcess label).performAll type actions).hold
        (type.catalogue.count .empty)).1 = .ok (found.length + bare.length) ∧
      (((Session.inProcess label).performAll type actions).hold
        (type.catalogue.find .empty none .whole)).1 = .ok values ∧
      List.Forall₂ (fun id value =>
        (((Session.inProcess label).performAll type actions).hold
          (type.catalogue.findById ⟨id⟩)).1 = .ok (some value)) found values ∧
      ∀ id ∈ bare, (((Session.inProcess label).performAll type actions).hold
        (type.catalogue.findById ⟨id⟩)).1 = .ok none := by
  have keeps := Session.keeps_performAll type label actions
  have holds {α : Type} (query : Querying α) := (Session.hold_eval keeps query).1
  -- the registry is parted into the ids with fields and those without
  have parts := List.filter_append_perm
    ((updates type.schema actions).store.hasFields type.schema.keyspace)
    ((updates type.schema actions).store.members type.schema.keyspace.registryKey).toList
  have named : type.catalogue.namedOn type.schema.keyspace .empty .whole
      (updates type.schema actions).store = .ok _ := Catalogue.namedOn_whole ..
  obtain ⟨values, found, each⟩ :=
    (Catalogue.returns_of_readable named fun id _ => readable id).found
  refine ⟨_, _, values, parts.nodup_iff.mpr (InsertionSet.nodup _), fun id => ?_, fun id => ?_, ?_,
    (holds _).trans found, each.imp fun id value reads => (holds _).trans reads.eval_findById,
    fun id listed => (holds _).trans (Catalogue.eval_findById_of_none ?_)⟩
  · rw [List.mem_filter, ← InsertionSet.mem_def, mem_registry_updates_iff,
      hasFields_updates_iff]
    exact and_iff_right_of_imp fun ⟨entity, current, _⟩ => ⟨entity, current⟩
  · rw [List.mem_filter, ← InsertionSet.mem_def, mem_registry_updates_iff, Bool.not_eq_true',
      ← Bool.not_eq_true, hasFields_updates_iff]
    constructor
    · rintro ⟨⟨entity, current⟩, none⟩
      exact ⟨entity, current, by_contra fun filled => none ⟨entity, current, filled⟩⟩
    · rintro ⟨entity, current, bare⟩
      refine ⟨⟨entity, current⟩, ?_⟩
      rintro ⟨other, same, filled⟩
      cases current.symm.trans same
      exact filled bare
  · rw [holds, Catalogue.count, Catalogue.eval_countIn, ← List.length_append, parts.length_eq]
    rfl
  · have none := (List.mem_filter.mp listed).2
    rw [Bool.not_eq_true', ← Bool.not_eq_true, Store.hasFields_iff, not_exists] at none
    exact Option.eq_none_iff_forall_ne_some.mpr none

end Counted

/-- Towns whose land may be unknown, and whose id may be left to the record. -/
def strayTown : EntityType where
  schema := town.schema
  shape := .record "Town" [("id", .optional .text), ("land", .optional .text)] ["id"]

/-- A town of which nothing is known but its id, which is not a part of it. -/
def strayed : Entity where
  form := .ok (.object [("land", .null)])
  id := .ofString "falme"

/-- A town in a land, and one of which nothing is known. -/
def strayActions : List Action :=
  [.insert (townIn "illian" "illian"), .insert strayed]

/-- What was inserted can be read back, unless it is bare. -/
theorem readable_of_inserted {type : EntityType} {actions : List Action}
    (stored : ∀ entity, .insert entity ∈ actions → ∀ write, entity.write type.schema = .ok write →
      write.record.fields.isEmpty = true ∨ (type.read write.record).isOk)
    (id : Bytes) (record : Record)
    (held : (updates type.schema actions).store.get? type.schema.keyspace id = some record) :
    ∃ value, type.read record = .ok value := by
  obtain ⟨entity, write, current, filled, written, rfl⟩ := get?_updates_iff.mp held
  rcases stored entity (of_current? current).1 write written with none | read
  · exact (filled ((Entity.isEmpty_fields_iff written).mp none)).elim
  · exact exists_of_isOk read

theorem count_eq_found_add_bare_stray :
    (∀ id record,
      (updates strayTown.schema strayActions).store.get? strayTown.schema.keyspace id =
        some record → ∃ value, strayTown.read record = .ok value) ∧
    ∃ (found bare : List Bytes) (values : List Json), (found ++ bare).Nodup ∧
      (∀ id, id ∈ found ↔
        ∃ entity, current? strayTown.schema strayActions id = some entity ∧ ¬ entity.Bare) ∧
      (∀ id, id ∈ bare ↔
        ∃ entity, current? strayTown.schema strayActions id = some entity ∧ entity.Bare) ∧
      (((Session.inProcess "memory").performAll strayTown strayActions).hold
        (strayTown.catalogue.count .empty)).1 = .ok (found.length + bare.length) ∧
      (((Session.inProcess "memory").performAll strayTown strayActions).hold
        (strayTown.catalogue.find .empty none .whole)).1 = .ok values ∧
      List.Forall₂ (fun id value =>
        (((Session.inProcess "memory").performAll strayTown strayActions).hold
          (strayTown.catalogue.findById ⟨id⟩)).1 = .ok (some value)) found values ∧
      ∀ id ∈ bare, (((Session.inProcess "memory").performAll strayTown strayActions).hold
        (strayTown.catalogue.findById ⟨id⟩)).1 = .ok none := by
  have readable : ∀ id record,
      (updates strayTown.schema strayActions).store.get? strayTown.schema.keyspace id =
        some record → ∃ value, strayTown.read record = .ok value := by
    refine readable_of_inserted fun entity inserted write written => ?_
    simp only [strayActions, List.mem_cons, List.not_mem_nil, or_false, Action.insert.injEq]
      at inserted
    rcases inserted with rfl | rfl
    all_goals
      cases written
      decide +kernel
  exact ⟨readable, count_eq_found_add_bare "memory" readable⟩

/-- **A town is counted and not found.** Nothing is known of it, so it is registered, but nothing is
stored of it. -/
theorem count_ne_found_strayed :
    (∀ property ∈ strayTown.schema.properties, ColonFree property.path) ∧
      (∀ key ∈ (updates strayTown.schema [.insert strayed]).helperKeys,
        key ∉ (updates strayTown.schema [.insert strayed]).indexKeys) ∧
      (∃ write, strayed.write strayTown.schema = .ok write) ∧
      (∀ id record,
        (updates strayTown.schema [.insert strayed]).store.get? strayTown.schema.keyspace id =
          some record → ∃ value, strayTown.read record = .ok value) ∧
      (((Session.inProcess "memory").performAll strayTown [.insert strayed]).hold
        (strayTown.catalogue.count .empty)).1 = .ok 1 ∧
      (((Session.inProcess "memory").performAll strayTown [.insert strayed]).hold
        (strayTown.catalogue.find .empty none .whole)).1 = .ok [] ∧
      (((Session.inProcess "memory").performAll strayTown [.insert strayed]).hold
        (strayTown.catalogue.findById strayed.id)).1 = .ok none := by
  refine ⟨by decide, by decide, ⟨_, rfl⟩, ?_, by decide +kernel, by decide +kernel,
    by decide +kernel⟩
  refine readable_of_inserted fun entity inserted write written => ?_
  cases List.mem_singleton.mp inserted
  cases written
  decide +kernel

end SecondaryIndex
