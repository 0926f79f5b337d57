/-
**Looking for entities by index sets finds what a scan of all entities would find.**

* `Entity.Carries` — an entity has a value at a path: its id, or a value that it is indexed under;
* `Criteria.Meets` — it carries all that the first group asks for, or something of the second;
* `Scannable.shows` — after any inserts and deletes the index sets show what the current entities
  carry, and `mem_all_iff` and `mem_any_iff` say what the two groups make of that;
* `find_eq_scan` — a query returns the current entities that meet its criteria, each of them once.
-/

import SecondaryIndex.Proofs.Query.Stages
import SecondaryIndex.Proofs.Store.Consistency

namespace SecondaryIndex

/-! ## Part 1 — what criteria ask for -/

/-- The entity has the value at the path: as its id, or as one that it is indexed under. -/
def Entity.Carries (schema : Schema) (entity : Entity) (path : String) (value : IndexValue) :
    Prop :=
  (schema.identifies path ∧ value = entity.id) ∨
    ∃ write, entity.write schema = .ok write ∧ ⟨path, value⟩ ∈ write.indexes

namespace Criteria

/-- The entity carries all that the first group asks for, or something that the second asks for. -/
def Meets (schema : Schema) (criteria : Criteria) (entity : Entity) : Prop :=
  (criteria.all.toList ≠ [] ∧ ∀ predicate ∈ criteria.all, ∀ value ∈ predicate.values,
    entity.Carries schema predicate.path value) ∨
  ∃ predicate ∈ criteria.any, ∃ value ∈ predicate.values,
    entity.Carries schema predicate.path value

/-- The criteria name a value at a path. -/
def Names (criteria : Criteria) (path : String) (value : IndexValue) : Prop :=
  ∃ predicate, (predicate ∈ criteria.all ∨ predicate ∈ criteria.any) ∧ predicate.path = path ∧
    value ∈ predicate.values

end Criteria

/-! ## Part 2 — ids and what their entities carry -/

/-- A store shows of an entity what it carries: at paths of the id by the id, and at other paths by
the index sets that have it. -/
structure Shows (schema : Schema) (store : Store) (entity : Entity) (predicate : Predicate) :
    Prop where
  direct : schema.identifies predicate.path = true → ∀ value ∈ predicate.values,
    (entity.Carries schema predicate.path value ↔ value.bytes = entity.id.bytes)
  indexed : schema.identifies predicate.path = false → ∀ value ∈ predicate.values,
    (entity.Carries schema predicate.path value ↔
      entity.id.bytes ∈ store.members (schema.keyspace.indexKey predicate.path value.bytes))

section Groups

variable {schema : Schema} {store : Store} {entity : Entity} {predicates : List Predicate}
  {key id : Bytes}

theorem mem_keys :
    key ∈ (Group.ofPredicates schema predicates).keys ↔
      ∃ predicate ∈ predicates, schema.identifies predicate.path = false ∧
        ∃ value ∈ predicate.values, key = schema.keyspace.indexKey predicate.path value.bytes := by
  rw [Group.ofPredicates, Group.ofSelection, Selection.parts, indexKeys, List.mem_flatMap]
  constructor
  · rintro ⟨predicate, listed, named⟩
    obtain ⟨value, asked, rfl⟩ := List.mem_map.mp named
    obtain ⟨member, role⟩ := List.mem_filter.mp listed
    exact ⟨predicate, member, by simpa using role, value, asked, rfl⟩
  · rintro ⟨predicate, member, role, value, asked, rfl⟩
    refine ⟨predicate, List.mem_filter.mpr ⟨member, ?_⟩, List.mem_map.mpr ⟨value, asked, rfl⟩⟩
    rw [role]
    rfl

theorem mem_direct :
    id ∈ (Group.ofPredicates schema predicates).direct ↔
      ∃ predicate ∈ predicates, schema.identifies predicate.path = true ∧
        ∃ value ∈ predicate.values, value.bytes = id := by
  rw [Group.ofPredicates, Group.ofSelection, Selection.parts, List.mem_flatMap]
  simp [and_assoc]

/-- The second group finds the entities that carry something it asks for. -/
theorem mem_any_iff (shows : ∀ predicate ∈ predicates, Shows schema store entity predicate) :
    ((∃ key ∈ (Group.ofPredicates schema predicates).keys, entity.id.bytes ∈ store.members key) ∨
        entity.id.bytes ∈ (Group.ofPredicates schema predicates).direct) ↔
      ∃ predicate ∈ predicates, ∃ value ∈ predicate.values,
        entity.Carries schema predicate.path value := by
  constructor
  · rintro (⟨key, listed, member⟩ | listed)
    · obtain ⟨predicate, asked, role, value, named, rfl⟩ := mem_keys.mp listed
      have carries := ((shows predicate asked).indexed role value named).mpr member
      exact ⟨predicate, asked, value, named, carries⟩
    · obtain ⟨predicate, asked, role, value, named, same⟩ := mem_direct.mp listed
      have carries := ((shows predicate asked).direct role value named).mpr same
      exact ⟨predicate, asked, value, named, carries⟩
  · rintro ⟨predicate, asked, value, named, carries⟩
    cases role : schema.identifies predicate.path with
    | true =>
      have same := ((shows predicate asked).direct role value named).mp carries
      exact .inr (mem_direct.mpr ⟨predicate, asked, role, value, named, same⟩)
    | false =>
      have member := ((shows predicate asked).indexed role value named).mp carries
      exact .inl ⟨_, mem_keys.mpr ⟨predicate, asked, role, value, named, rfl⟩, member⟩

/-- A lone predicate for the id finds the entity with that id. -/
theorem mem_all_iff_of_identifies {predicate : Predicate} {value : IndexValue}
    (shows : Shows schema store entity predicate) (single : predicate.values = [value])
    (role : schema.identifies predicate.path = true) :
    (((Group.ofPredicates schema [predicate]).keys ≠ [] ∧
        ∀ key ∈ (Group.ofPredicates schema [predicate]).keys, entity.id.bytes ∈ store.members key) ∨
        entity.id.bytes ∈ (Group.ofPredicates schema [predicate]).direct) ↔
      entity.Carries schema predicate.path value := by
  have listed : value ∈ predicate.values := single ▸ List.mem_cons_self
  have none : (Group.ofPredicates schema [predicate]).keys = [] := by
    refine List.eq_nil_iff_forall_not_mem.mpr fun key named => ?_
    obtain ⟨other, member, indexed, _⟩ := mem_keys.mp named
    rw [List.mem_singleton.mp member, role] at indexed
    cases indexed
  rw [shows.direct role value listed, none, mem_direct]
  simp [role, single]

/-- Predicates none of which is for the id find the entities that are in all sets. -/
theorem mem_all_iff_of_unidentified
    (shows : ∀ predicate ∈ predicates, Shows schema store entity predicate)
    (single : ∀ predicate ∈ predicates, ∃ value, predicate.values = [value])
    (indexed : ∀ predicate ∈ predicates, schema.identifies predicate.path = false) :
    (((Group.ofPredicates schema predicates).keys ≠ [] ∧
        ∀ key ∈ (Group.ofPredicates schema predicates).keys, entity.id.bytes ∈ store.members key) ∨
        entity.id.bytes ∈ (Group.ofPredicates schema predicates).direct) ↔
      predicates ≠ [] ∧ ∀ predicate ∈ predicates, ∀ value ∈ predicate.values,
        entity.Carries schema predicate.path value := by
  have none : entity.id.bytes ∉ (Group.ofPredicates schema predicates).direct := by
    intro named
    obtain ⟨predicate, member, identified, _⟩ := mem_direct.mp named
    rw [indexed predicate member] at identified
    cases identified
  have keys : (Group.ofPredicates schema predicates).keys ≠ [] ↔ predicates ≠ [] := by
    constructor
    · rintro some rfl
      exact some rfl
    · intro some empty
      obtain ⟨predicate, member⟩ := List.exists_mem_of_ne_nil predicates some
      obtain ⟨value, values⟩ := single predicate member
      have named : schema.keyspace.indexKey predicate.path value.bytes ∈
          (Group.ofPredicates schema predicates).keys :=
        mem_keys.mpr ⟨predicate, member, indexed predicate member, value,
          values ▸ List.mem_cons_self, rfl⟩
      rw [empty] at named
      cases named
  rw [or_iff_left none, keys]
  refine and_congr_right fun _ => ?_
  constructor
  · intro all predicate member value listed
    rw [(shows predicate member).indexed (indexed predicate member) value listed]
    exact all _ (mem_keys.mpr ⟨predicate, member, indexed predicate member, value, listed, rfl⟩)
  · intro all key named
    obtain ⟨predicate, member, role, value, listed, rfl⟩ := mem_keys.mp named
    have carries := all predicate member value listed
    exact ((shows predicate member).indexed role value listed).mp carries

/-- The first group finds the entities that carry all it asks for. -/
theorem mem_all_iff (shows : ∀ predicate ∈ predicates, Shows schema store entity predicate)
    (single : ∀ predicate ∈ predicates, ∃ value, predicate.values = [value])
    (unidentified : 2 ≤ predicates.length → ∀ predicate ∈ predicates,
      schema.identifies predicate.path = false) :
    (((Group.ofPredicates schema predicates).keys ≠ [] ∧
        ∀ key ∈ (Group.ofPredicates schema predicates).keys, entity.id.bytes ∈ store.members key) ∨
        entity.id.bytes ∈ (Group.ofPredicates schema predicates).direct) ↔
      predicates ≠ [] ∧ ∀ predicate ∈ predicates, ∀ value ∈ predicate.values,
        entity.Carries schema predicate.path value := by
  match predicates, shows, single, unidentified with
  | [], shows, single, _ => exact mem_all_iff_of_unidentified shows single nofun
  | [predicate], shows, single, _ =>
    cases role : schema.identifies predicate.path with
    | true =>
      obtain ⟨value, values⟩ := single predicate List.mem_cons_self
      rw [mem_all_iff_of_identifies (shows predicate List.mem_cons_self) values role]
      simp [values]
    | false =>
      refine mem_all_iff_of_unidentified shows single fun other listed => ?_
      rw [List.mem_singleton.mp listed]
      exact role
  | first :: second :: rest, shows, single, unidentified =>
    have several : 2 ≤ (first :: second :: rest).length := Nat.le_add_left 2 rest.length
    exact mem_all_iff_of_unidentified shows single (unidentified several)

end Groups

/-! ## Part 3 — the scan -/

/-- What is supposed of the entities of a type, of some actions and of criteria: paths without a
colon, entities that can be read back, and no list of index keys at the key of an index set. -/
structure Scannable (type : EntityType) (actions : List Action) (criteria : Criteria) : Prop where
  declared : type.schema.Declared
  colonFree : ∀ property ∈ type.schema.properties, ColonFree property.path
  stored : ∀ entity, .insert entity ∈ actions → ∀ write, entity.write type.schema = .ok write →
    write.record.fields.isEmpty = false ∧ ∃ value, type.read write.record = .ok value
  apart : ∀ update ∈ updates type.schema actions, ∀ path value,
    (∃ other ∈ updates type.schema actions, ⟨path, value⟩ ∈ other.indexes) ∨
        criteria.Names path value →
      update.id ++ Bytes.ofString ":idx" ≠ Bytes.ofString path ++ [separator] ++ value.bytes

section Scan

variable {type : EntityType} {actions : List Action} {criteria : Criteria} {update : Update}
  {entity : Entity}

theorem of_mem_updates {schema : Schema} (listed : update ∈ updates schema actions) :
    update.keyspace = schema.keyspace ∧
      ∀ entry ∈ update.indexes, ∃ value, entry ∈ indexEntries schema value := by
  obtain ⟨action, _, found⟩ := List.mem_filterMap.mp listed
  cases action with
  | insert entity =>
    obtain ⟨write, written, rfl⟩ := Action.of_update?_insert found
    obtain ⟨_, keyspace, value, entries⟩ := Entity.record_write written
    refine ⟨keyspace, fun entry member => ⟨value, ?_⟩⟩
    rw [← entries]
    exact member
  | delete id =>
    cases found
    exact ⟨rfl, fun entry member => (List.not_mem_nil member).elim⟩

namespace Scannable

theorem colonFree_of_mem (scannable : Scannable type actions criteria)
    (listed : update ∈ updates type.schema actions) :
    ∀ entry ∈ update.indexes, ColonFree entry.path := by
  intro entry member
  obtain ⟨value, named⟩ := (of_mem_updates listed).2 entry member
  obtain ⟨property, declared, same, _⟩ := exists_property_of_mem named
  exact same ▸ scannable.colonFree property declared

/-- No list of index keys is at the key of an index set that is written to or looked up. -/
theorem notMem_helperKeys (scannable : Scannable type actions criteria) {path : String}
    {value : IndexValue}
    (used : (∃ other ∈ updates type.schema actions, ⟨path, value⟩ ∈ other.indexes) ∨
      criteria.Names path value) :
    type.schema.keyspace.indexKey path value.bytes ∉ (updates type.schema actions).helperKeys := by
  intro named
  obtain ⟨update, listed, same⟩ := List.mem_map.mp named
  rw [(of_mem_updates listed).1] at same
  exact scannable.apart update listed path value used (Keyspace.helperKey_eq_indexKey_iff.mp same)

theorem orderly (scannable : Scannable type actions criteria) :
    Orderly type.schema.keyspace (updates type.schema actions) where
  keyspace_eq update listed := (of_mem_updates listed).1
  apart key helper named := by
    obtain ⟨update, listed, entered⟩ := List.mem_flatMap.mp named
    obtain ⟨entry, member, rfl⟩ := List.mem_map.mp entered
    rw [(of_mem_updates listed).1] at helper
    exact scannable.notMem_helperKeys (.inl ⟨update, listed, member⟩) helper

/-- The store has the fields of the current entities. -/
theorem holds (scannable : Scannable type actions criteria) :
    Holds type (updates type.schema actions).store (current? type.schema actions) := by
  intro id
  have fields : _ = ((updates type.schema actions).standing id).bind Write.stored? :=
    scannable.orderly.get?_fields_store
  rw [standing_updates] at fields
  cases current : current? type.schema actions id with
  | none =>
    rw [current] at fields
    exact .inl ⟨rfl, by rw [Store.fieldsAt, fields]; rfl⟩
  | some entity =>
    obtain ⟨inserted, same, write, written⟩ := of_current? current
    obtain ⟨some, value, read⟩ := scannable.stored entity inserted write written
    obtain ⟨writeId, writeKeyspace, _⟩ := Entity.record_write written
    rw [current, Option.bind_some, written] at fields
    have kept : (updates type.schema actions).store.fieldsAt (type.schema.keyspace.entityKey id) =
        write.record.fields := by
      rw [Store.fieldsAt, fields]
      simp [Except.toOption, Write.stored?, some]
    refine .inr ⟨entity, write, value, rfl, written, some, read, ?_⟩
    rw [kept, ← same, ← writeId, ← writeKeyspace]
    rfl

/-- The store shows of the current entities what they carry. -/
theorem shows (scannable : Scannable type actions criteria) (plain : criteria.Plain type.schema)
    (current : current? type.schema actions entity.id.bytes = some entity) {predicate : Predicate}
    (asked : predicate ∈ criteria.all ∨ predicate ∈ criteria.any) :
    Shows type.schema (updates type.schema actions).store entity predicate := by
  obtain ⟨property, resolved⟩ := plain.resolves predicate asked
  obtain ⟨declared, samePath, _⟩ := Schema.resolve_eq_ok resolved
  obtain ⟨_, _, write, written⟩ := of_current? current
  constructor
  · intro role value _
    have unindexed : ¬ ∃ write, entity.write type.schema = .ok write ∧
        ⟨predicate.path, value⟩ ∈ write.indexes := by
      rintro ⟨held, heldWritten, entry⟩
      obtain ⟨_, _, content, entries⟩ := Entity.record_write heldWritten
      rw [entries] at entry
      have other := identifies_eq_false_of_mem scannable.declared entry
      exact Bool.false_ne_true (other.symm.trans role)
    rw [Entity.Carries, or_iff_left unindexed, and_iff_right role]
    exact ⟨congrArg IndexValue.bytes, fun same => congrArg IndexValue.mk same⟩
  · intro role value named
    have free : ColonFree predicate.path := samePath ▸ scannable.colonFree property declared
    have apart := scannable.notMem_helperKeys (.inr ⟨predicate, asked, rfl, named⟩)
    have colonFree : ∀ update ∈ updates type.schema actions, ∀ entry ∈ update.indexes,
        ColonFree entry.path := fun update listed => scannable.colonFree_of_mem listed
    rw [scannable.orderly.mem_indexKey_store colonFree free value apart, standing_updates, current,
      Option.bind_some, Entity.Carries, role]
    simp [written, Except.toOption]

end Scannable

/-- The ids of the current entities that some ids stand for. -/
theorem map_filterMap_current? (schema : Schema) (ids : List Bytes) :
    (ids.filterMap (current? schema actions)).map (fun entity => entity.id.bytes) =
      ids.filter fun id => (current? schema actions id).isSome := by
  induction ids with
  | nil => rfl
  | cons id ids ih =>
    cases current : current? schema actions id with
    | none =>
      rw [List.filterMap_cons_none current, ih, List.filter_cons_of_neg (by simp [current])]
    | some entity =>
      rw [List.filterMap_cons_some current, List.map_cons, ih, (of_current? current).2.1,
        List.filter_cons_of_pos (by simp [current])]

theorem mem_filterMap_current? {schema : Schema} {ids : List Bytes} :
    entity ∈ ids.filterMap (current? schema actions) ↔
      current? schema actions entity.id.bytes = some entity ∧ entity.id.bytes ∈ ids := by
  rw [List.mem_filterMap]
  constructor
  · rintro ⟨id, listed, current⟩
    obtain ⟨_, rfl, _⟩ := of_current? current
    exact ⟨current, listed⟩
  · rintro ⟨current, listed⟩
    exact ⟨_, listed, current⟩

/-- The collected ids are those of the entities that meet the criteria. -/
theorem Scannable.mem_ids_iff (scannable : Scannable type actions criteria)
    (plain : criteria.Plain type.schema)
    (current : current? type.schema actions entity.id.bytes = some entity) :
    entity.id.bytes ∈
        (Plan.ofCriteria type.schema criteria).ids (updates type.schema actions).store ↔
      criteria.Meets type.schema entity := by
  have all := mem_all_iff (fun predicate listed => scannable.shows plain current (.inl listed))
    plain.single plain.unidentified
  have any := mem_any_iff fun predicate listed => scannable.shows plain current (.inr listed)
  rw [mem_ids, Criteria.Meets]
  exact or_congr all any

/-- **Looking for entities finds what a scan finds.** After any inserts and deletes, a query that is
neither paged nor sorted returns the current entities that meet its criteria, each of them once. -/
theorem find_eq_scan (label : String) (scannable : Scannable type actions criteria)
    (plain : criteria.Plain type.schema) :
    ∃ found values,
      (((Session.inProcess label).performAll type actions).hold
        (type.catalogue.find criteria none .whole)).1 = .ok values ∧
      (found.map Entity.id).Nodup ∧
      (∀ entity, entity ∈ found ↔
        current? type.schema actions entity.id.bytes = some entity ∧
          criteria.Meets type.schema entity) ∧
      List.Forall₂ (Reads type) found values := by
  have keeps := Session.keeps_performAll type label actions
  obtain ⟨values, evaluated, reads⟩ := eval_find plain scannable.holds
  refine ⟨_, values, (Session.hold_eval keeps _).1.trans evaluated, ?_, fun entity => ?_, reads⟩
  · apply List.Nodup.of_map IndexValue.bytes
    rw [List.map_map]
    exact map_filterMap_current? type.schema _ ▸ (InsertionSet.nodup _).filter _
  · rw [mem_filterMap_current?]
    exact and_congr_right fun current => scannable.mem_ids_iff plain current

end Scan

/-- Towns, which are looked for by their land. -/
def town : EntityType where
  schema := (Schema.empty "Town" ⟨"towns"⟩).declareAll [(.identifier, "id"), (.indexed, "land")]
  shape := .record "Town" [("id", .text), ("land", .text)] []

/-- A town in a land. -/
def townIn (name land : String) : Entity where
  form := .ok (.object [("id", .text name), ("land", .text land)])
  id := .ofString name

/-- Two towns, one of which changes its land, one without a form, and one that goes. -/
def townActions : List Action :=
  [.insert (townIn "illian" "illian"), .insert (townIn "tear" "illian"),
    .insert ⟨.error "no form", .ofString "falme"⟩, .insert (townIn "cairhien" "cairhien"),
    .insert (townIn "tear" "tear"), .delete (.ofString "cairhien")]

/-- Towns in Illian, and some towns by name. -/
def townCriteria : Criteria :=
  (Criteria.empty.withAll ⟨"land", [.ofString "illian"]⟩).withAny
    ⟨"id", [.ofString "tear", .ofString "cairhien", .ofString "illian"]⟩

theorem stored_town (entity : Entity) (inserted : .insert entity ∈ townActions) (write : Write)
    (written : entity.write town.schema = .ok write) :
    write.record.fields.isEmpty = false ∧ ∃ value, town.read write.record = .ok value := by
  have isOk : write.record.fields.isEmpty = false ∧ (town.read write.record).isOk := by
    simp only [townActions, List.mem_cons, List.not_mem_nil, or_false, Action.insert.injEq]
      at inserted
    rcases inserted with rfl | rfl | rfl | rfl | rfl | equal
    · cases written
      decide +kernel
    · cases written
      decide +kernel
    · cases written
    · cases written
      decide +kernel
    · cases written
      decide +kernel
    · cases equal
  exact ⟨isOk.1, exists_of_isOk isOk.2⟩

theorem scannable_town : Scannable town townActions townCriteria where
  declared := ⟨"Town", ⟨"towns"⟩, _, rfl⟩
  colonFree := by decide
  stored := stored_town
  apart := by
    have ids : ∀ update ∈ updates town.schema townActions, update.id ∈
        [Bytes.ofString "illian", Bytes.ofString "tear", Bytes.ofString "cairhien"] := by decide
    have entries : ∀ update ∈ updates town.schema townActions, ∀ entry ∈ update.indexes,
        entry.path ∈ ["id", "land"] := by decide
    have asked : ∀ predicate ∈ townCriteria.all.toList ++ townCriteria.any.toList,
        predicate.path ∈ ["id", "land"] := by decide
    intro update listed path value used equal
    have named : path ∈ ["id", "land"] := by
      rcases used with ⟨other, otherListed, entry⟩ | ⟨predicate, either, rfl, _⟩
      · exact entries other otherListed _ entry
      · exact asked predicate (List.mem_append.mpr either)
    have known := ids update listed
    simp only [List.mem_cons, List.not_mem_nil, or_false] at named known
    rcases known with same | same | same <;> rw [same] at equal <;>
      rcases named with rfl | rfl <;> exact nomatch equal

theorem plain_town : townCriteria.Plain town.schema where
  near := rfl
  some := rfl
  resolves := by
    intro predicate asked
    have declared : ∀ predicate ∈ townCriteria.all.toList ++ townCriteria.any.toList,
        (town.schema.resolve predicate.path).isOk := by decide
    exact exists_of_isOk (declared predicate (List.mem_append.mpr asked))
  single := by
    intro predicate asked
    rw [List.mem_singleton.mp asked]
    exact ⟨_, rfl⟩
  unidentified := by decide

theorem find_eq_scan_town :
    Scannable town townActions townCriteria ∧ townCriteria.Plain town.schema ∧
      ∃ found values,
        (((Session.inProcess "memory").performAll town townActions).hold
          (town.catalogue.find townCriteria none .whole)).1 = .ok values ∧
        (found.map Entity.id).Nodup ∧
        (∀ entity, entity ∈ found ↔
          current? town.schema townActions entity.id.bytes = some entity ∧
            townCriteria.Meets town.schema entity) ∧
        List.Forall₂ (Reads town) found values :=
  ⟨scannable_town, plain_town, find_eq_scan "memory" scannable_town plain_town⟩

end SecondaryIndex
