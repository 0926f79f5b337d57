/-
**A store is in step with the writes that stand.**

`Reflects` says of every key of a keyspace what it holds, in terms of the standing writes alone:
fields, registration, index sets, lists of index keys, positions, and no empty collection.

* `reflects_store` — every history of one keyspace leaves a store that reflects it, provided that
  paths have no colon, that all updates settle the same positions, and that no list of index keys
  stands at a key that an entry writes to;
* `list_without_write` — the provisos leave one key open: the list of an id that was never written
  may be at the key of an index set, and then it is that set.
-/

import SecondaryIndex.Proofs.Store.History

namespace SecondaryIndex

/-- What the keys of a keyspace hold after a history. -/
structure Reflects (keyspace : Keyspace) (history : History) (store : Store) : Prop where
  /-- Fields are those of the standing write, and no fields are not kept. -/
  fields : ∀ id,
    store.fields.get? (keyspace.entityKey id) = (history.standing id).bind Write.stored?
  /-- The registry holds the ids with a standing write. -/
  registered : ∀ id,
    id ∈ store.members keyspace.registryKey ↔ (history.standing id).isSome
  /-- The set of a path and a value holds the ids whose standing write has that entry. -/
  indexed : ∀ path value, ColonFree path →
    keyspace.indexKey path value.bytes ∉ history.helperKeys → ∀ id,
      (id ∈ store.members (keyspace.indexKey path value.bytes) ↔
        ∃ write, history.standing id = some write ∧ ⟨path, value⟩ ∈ write.indexes)
  /-- The list of an id names the index sets of its standing write. -/
  listed : ∀ id, keyspace.helperKey id ∉ history.indexKeys → ∀ key,
    (key ∈ store.members (keyspace.helperKey id) ↔
      ∃ write, history.standing id = some write ∧ key ∈ write.indexKeys)
  /-- An id without index sets has no list. -/
  unlisted : ∀ id, keyspace.helperKey id ∉ history.indexKeys →
    (store.sets.get? (keyspace.helperKey id) = none ↔
      ∀ write, history.standing id = some write → write.indexes = [])
  /-- Positions are the points of the standing writes. -/
  placed : ∀ path, ColonFree path → ∀ id,
    store.position? (keyspace.geoKey path) id = (history.standing id).bind (·.pointAt? path)
  /-- No key holds an empty collection. -/
  tidy : store.Tidy

variable {keyspace : Keyspace} {history : History} {paths : List String}

/-- Behind paths without a colon, the key of an index set tells its entry. -/
theorem Write.indexKey_mem_indexKeys {write : Write} {path : String} {value : IndexValue}
    (colonFree : ∀ entry ∈ write.indexes, ColonFree entry.path) (free : ColonFree path) :
    write.keyspace.indexKey path value.bytes ∈ write.indexKeys ↔
      ⟨path, value⟩ ∈ write.indexes := by
  constructor
  · intro named
    obtain ⟨entry, listed, same⟩ := List.mem_map.mp named
    obtain ⟨samePath, sameValue⟩ := (Keyspace.indexKey_inj (colonFree entry listed) free).mp same
    obtain ⟨entryPath, ⟨entryBytes⟩⟩ := entry
    cases samePath
    cases sameValue
    exact listed
  · intro listed
    exact List.mem_map.mpr ⟨_, listed, rfl⟩

/-- An index set holds the ids whose standing write has its entry. -/
theorem Orderly.mem_indexKey_store (orderly : Orderly keyspace history)
    (colonFree : ∀ update ∈ history, ∀ entry ∈ update.indexes, ColonFree entry.path)
    {path : String} (free : ColonFree path) (value : IndexValue)
    (apart : keyspace.indexKey path value.bytes ∉ history.helperKeys) (id : Bytes) :
    id ∈ history.store.members (keyspace.indexKey path value.bytes) ↔
      ∃ write, history.standing id = some write ∧ ⟨path, value⟩ ∈ write.indexes := by
  rw [orderly.mem_members_store (keyspace.indexKey_ne_registryKey path value.bytes) apart]
  refine exists_congr fun write => and_congr_right fun stands => ?_
  have listed := (History.mem_of_standing stands).1
  rw [← Write.indexKey_mem_indexKeys (colonFree _ listed) free,
    show write.keyspace = keyspace from orderly.keyspace_eq _ listed]

/-- An id has no list exactly if its standing write enters no index set. -/
theorem Orderly.get?_helper_store (orderly : Orderly keyspace history) {id : Bytes}
    (apart : keyspace.helperKey id ∉ history.indexKeys) :
    history.store.sets.get? (keyspace.helperKey id) = none ↔
      ∀ write, history.standing id = some write → write.indexes = [] := by
  rw [(History.tidy_store history).get?_sets_eq_none_iff]
  constructor
  · intro none write stands
    refine List.eq_nil_iff_forall_not_mem.mpr fun entry listed => ?_
    exact none _ ((orderly.mem_helper_store id apart _).mpr
      ⟨write, stands, List.mem_map.mpr ⟨entry, listed, rfl⟩⟩)
  · intro none key member
    obtain ⟨write, stands, named⟩ := (orderly.mem_helper_store id apart key).mp member
    rw [Write.indexKeys, none write stands] at named
    cases named

/-- **The store after a history is in step with the writes that stand**, at every key of the
keyspace and for every id, written or not. -/
theorem reflects_store (orderly : Orderly keyspace history) (same : SamePaths paths history)
    (colonFree : ∀ update ∈ history, ∀ entry ∈ update.indexes, ColonFree entry.path) :
    Reflects keyspace history history.store where
  fields _ := orderly.get?_fields_store
  registered _ := orderly.mem_registry_store
  indexed _ value free apart id := orderly.mem_indexKey_store colonFree free value apart id
  listed id apart key := orderly.mem_helper_store id apart key
  unlisted _ apart := orderly.get?_helper_store apart
  placed _ free _ := same.position?_store orderly free
  tidy := History.tidy_store history

/-- Two persons, one who moves away and one who goes. -/
def moving : History :=
  [.put (.ofTexts "persons" "2" [("city", "\"Tear\"")] [("city", "Tear")]
      [("location", some ⟨1.0, 2.0⟩)]),
    .put (.ofTexts "persons" "1" [("city", "\"Tear\"")] [("city", "Tear"), ("tag", "Tear")]
      [("location", none)]),
    .put (.ofTexts "persons" "2" [("city", "\"Caemlyn\"")] [("city", "Caemlyn")]
      [("location", none)]),
    .delete ⟨"persons"⟩ (Bytes.ofString "1") ["location"]]

theorem reflects_store_moving :
    Orderly ⟨"persons"⟩ moving ∧ SamePaths ["location"] moving ∧
      (∀ update ∈ moving, ∀ entry ∈ update.indexes, ColonFree entry.path) ∧
      Reflects ⟨"persons"⟩ moving moving.store := by
  have orderly : Orderly ⟨"persons"⟩ moving := ⟨by decide, by decide⟩
  have same : SamePaths ["location"] moving := ⟨by decide, by decide, by decide⟩
  have colonFree : ∀ update ∈ moving, ∀ entry ∈ update.indexes, ColonFree entry.path := by decide
  exact ⟨orderly, same, colonFree, reflects_store orderly same colonFree⟩

/-- A person whose city is called like the end of a key. -/
def cityOfIdx : History :=
  [.put (.ofTexts "persons" "2" [("city", "\"idx\"")] [("city", "idx")] [])]

/-- **An id that was never written may have a list.** The set of those whose city is `idx` is at the
key of the list of the id `city`. -/
theorem list_without_write :
    Orderly ⟨"persons"⟩ cityOfIdx ∧ SamePaths [] cityOfIdx ∧
      (∀ update ∈ cityOfIdx, ∀ entry ∈ update.indexes, ColonFree entry.path) ∧
      cityOfIdx.standing (Bytes.ofString "city") = none ∧
      cityOfIdx.store.sets.get? (Keyspace.helperKey ⟨"persons"⟩ (Bytes.ofString "city")) ≠ none := by
  refine ⟨⟨by decide, by decide⟩, ⟨by decide, by decide, by decide⟩, by decide, rfl, ?_⟩
  decide

end SecondaryIndex
