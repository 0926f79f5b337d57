/-
**What a store holds after a history of updates.**

A history is the list of updates that a store went through, the oldest first. Of each id only the
last update counts: `History.standing` is the write that it made, or nothing if it was a removal.

* `Update.mem_members_apply`, `Update.get?_fields_apply` and `Update.position?_apply` — one update,
  whether it writes or removes, on every key;
* `Orderly` — one keyspace, and no list of index keys at a key that an entry writes to;
* `get?_fields_store`, `mem_registry_store` — fields and registration follow the standing writes;
* `mem_members_store` and `mem_helper_store` — so do the index sets and the lists of index keys,
  each kind as long as its key is not used by the other;
* `position?_store` — so do positions, where all updates name the same paths.
-/

import SecondaryIndex.Proofs.Store.Effect
import SecondaryIndex.Store.Local

namespace SecondaryIndex

/-- The fields that a store keeps of a write; no fields are not kept. -/
def Write.stored? (write : Write) : Option Fields :=
  if write.record.fields.isEmpty then none else some write.record.fields

/-- The point that a write gives for a path. -/
def Write.pointAt? (write : Write) (path : String) : Option Point :=
  (write.positions.find? (·.path = path)).bind PositionEntry.point

/-- A write whose fields, entries and positions are given as texts. -/
def Write.ofTexts (keyspace id : String) (fields entries : List (String × String))
    (positions : List (String × Option Point)) : Write where
  record := ⟨Bytes.ofString id, ⟨keyspace⟩,
    .ofList (fields.map fun (field, value) => (Bytes.ofString field, Bytes.ofString value))⟩
  indexes := entries.map fun (path, value) => ⟨path, .ofString value⟩
  positions := positions.map fun (path, point) => ⟨path, point⟩

/-- One update of a store. -/
inductive Update where
  | put (write : Write)
  | delete (keyspace : Keyspace) (id : Bytes) (paths : List String)

/-! ## Part 1 — one update -/

namespace Update

/-- The keyspace of the entity. -/
def keyspace : Update → Keyspace
  | .put write => write.keyspace
  | .delete keyspace _ _ => keyspace

/-- The id of the entity. -/
def id : Update → Bytes
  | .put write => write.id
  | .delete _ id _ => id

/-- What is written, unless the entity is removed. -/
def write? : Update → Option Write
  | .put write => some write
  | .delete .. => none

/-- The index entries that the entity has afterwards. -/
def indexes : Update → List IndexEntry
  | .put write => write.indexes
  | .delete .. => []

/-- The keys of the index sets that the entity belongs to afterwards. -/
def indexKeys (update : Update) : List Bytes :=
  update.indexes.map fun entry => update.keyspace.indexKey entry.path entry.value.bytes

/-- The sets that the entity enters: the registry and its index sets. -/
def entered : Update → List Bytes
  | .put write => write.keyspace.registryKey :: write.indexKeys
  | .delete .. => []

/-- The positions that the entity takes up, or leaves. -/
def moves : Update → List PositionEntry
  | .put write => write.positions
  | .delete _ _ paths => paths.map (PositionEntry.mk · none)

/-- The paths whose positions are settled. -/
def paths (update : Update) : List String :=
  update.moves.map (·.path)

/-- The store after an update. -/
def apply (store : Store) : Update → Store
  | .put write => store.put write
  | .delete keyspace id paths => store.delete keyspace id paths

/-- The call that makes an update. -/
def request : Update → Request
  | .put write => .put write
  | .delete keyspace id paths => .delete keyspace id paths

/-- What became of a removal. -/
def status? : (update : Update) → update.request.Answer → Option DeleteStatus
  | .put _, _ => none
  | .delete .., status => some status

variable {store : Store} {update : Update} {other place : Bytes}

/-- **Every set after an update.** -/
theorem mem_members_apply :
    other ∈ (update.apply store).members place ↔
      (other = update.id ∧ place ∈ update.entered) ∨
      (place = update.keyspace.helperKey update.id ∧ other ∈ update.indexKeys) ∨
      (place ≠ update.keyspace.helperKey update.id ∧ other ∈ store.members place ∧
        ¬ ((place = update.keyspace.registryKey ∨
          place ∈ store.members (update.keyspace.helperKey update.id)) ∧ other = update.id)) := by
  cases update with
  | put write =>
    rw [apply, Store.mem_members_put]
    simp only [keyspace, id, entered, indexKeys, indexes, List.mem_cons, Write.indexKeys]
    grind
  | delete keyspace id paths =>
    rw [apply, Store.mem_members_delete]
    simp [Update.keyspace, Update.id, entered, indexKeys, indexes]

theorem get?_fields_apply :
    (update.apply store).fields.get? place =
      if place = update.keyspace.entityKey update.id then update.write?.bind Write.stored?
      else store.fields.get? place := by
  cases update with
  | put write => exact Store.get?_fields_put
  | delete keyspace id paths => exact Store.get?_fields_delete

theorem position?_apply :
    (update.apply store).position? place other =
      if other = update.id then
        (update.moves.filter fun entry =>
          place = update.keyspace.geoKey entry.path).getLast?.elim
            (store.position? place other) PositionEntry.point
      else store.position? place other := by
  cases update with
  | put write => exact Store.position?_put
  | delete keyspace id paths => exact Store.position?_delete

theorem tidy_apply (tidy : store.Tidy) : (update.apply store).Tidy := by
  cases update with
  | put write => exact tidy.put write
  | delete keyspace id paths => exact tidy.delete keyspace id paths

theorem registryKey_mem_entered :
    update.keyspace.registryKey ∈ update.entered ↔ update.write?.isSome := by
  cases update with
  | put write => simp [keyspace, entered, write?]
  | delete keyspace id paths => simp [entered, write?]

/-- Beside the registry, an entity enters its index sets. -/
theorem mem_entered_of_ne (different : place ≠ update.keyspace.registryKey) :
    place ∈ update.entered ↔ place ∈ update.indexKeys := by
  cases update with
  | put write => exact List.mem_cons.trans (or_iff_right different)
  | delete keyspace id paths => simp [entered, indexKeys, indexes]

theorem mem_indexKeys_iff_exists_write :
    place ∈ update.indexKeys ↔ ∃ write, update.write? = some write ∧ place ∈ write.indexKeys := by
  cases update with
  | put write => simp [indexKeys, indexes, keyspace, write?, Write.indexKeys]
  | delete keyspace id paths => simp [indexKeys, indexes, write?]

end Update

/-! ## Part 2 — histories -/

/-- The updates of a store, the oldest first. -/
abbrev History := List Update

/-- What became of the removals among some updates. -/
def statuses : History → Store → List (Option DeleteStatus)
  | [], _ => []
  | update :: rest, store =>
    update.status? (store.reply update.request) :: statuses rest (update.apply store)

namespace History

/-- The store after a history that began without any key. -/
def store (history : History) : Store :=
  history.foldl (fun store update => update.apply store) .empty

/-- The last update of an id. -/
def last? (history : History) (id : Bytes) : Option Update :=
  (history.filter fun update => update.id = id).getLast?

/-- The write that stands for an id: its last update, unless that removed it. -/
def standing (history : History) (id : Bytes) : Option Write :=
  (history.last? id).bind Update.write?

/-- The keys of the index sets that any update entered. -/
def indexKeys (history : History) : List Bytes :=
  history.flatMap Update.indexKeys

/-- The keys of the lists of index keys, one for each id. -/
def helperKeys (history : History) : List Bytes :=
  history.map fun update => update.keyspace.helperKey update.id

variable {history : History} {update : Update} {id other place : Bytes}

@[simp] theorem store_nil : store [] = .empty := rfl

@[simp] theorem store_concat (history : History) (update : Update) :
    store (history ++ [update]) = update.apply (store history) := by
  rw [store, List.foldl_append]
  rfl

@[simp] theorem standing_nil (id : Bytes) : standing [] id = none := rfl

/-- A further update settles its own id and no other. -/
theorem standing_concat (history : History) (update : Update) (id : Bytes) :
    standing (history ++ [update]) id =
      if update.id = id then update.write? else standing history id := by
  rw [standing, last?, getLast?_filter_concat]
  by_cases own : update.id = id
  · rw [if_pos (decide_eq_true own), if_pos own]
    rfl
  · rw [if_neg (mt of_decide_eq_true own), if_neg own]
    rfl

theorem mem_of_standing {write : Write} (stands : history.standing id = some write) :
    .put write ∈ history ∧ write.id = id := by
  obtain ⟨update, last, written⟩ := Option.bind_eq_some_iff.mp stands
  have listed := List.mem_filter.mp (List.mem_of_getLast? last)
  cases update with
  | put held =>
    cases written
    exact ⟨listed.1, of_decide_eq_true listed.2⟩
  | delete keyspace id paths => cases written

theorem mem_indexKeys_of_standing {write : Write} (stands : history.standing id = some write)
    (named : place ∈ write.indexKeys) : place ∈ history.indexKeys :=
  List.mem_flatMap.mpr ⟨.put write, (mem_of_standing stands).1, named⟩

theorem tidy_store (history : History) : history.store.Tidy := by
  induction history using List.reverseRecOn with
  | nil => exact .empty
  | append_singleton history update ih =>
    rw [store_concat]
    exact Update.tidy_apply ih

end History

/-! ## Part 3 — histories of one keyspace -/

/-- Every update is in the keyspace. -/
def History.Within (keyspace : Keyspace) (history : History) : Prop :=
  ∀ update ∈ history, update.keyspace = keyspace

namespace History.Within

variable {keyspace : Keyspace} {history : History} {update : Update} {id : Bytes}

theorem init (within : Within keyspace (history ++ [update])) : Within keyspace history :=
  fun earlier listed => within earlier (List.mem_append_left _ listed)

theorem last_keyspace (within : Within keyspace (history ++ [update])) :
    update.keyspace = keyspace :=
  within update (List.mem_append_right _ List.mem_cons_self)

/-- Fields are those of the standing write, whatever the sets are used for. -/
theorem get?_fields_store (within : Within keyspace history) :
    history.store.fields.get? (keyspace.entityKey id) =
      (history.standing id).bind Write.stored? := by
  induction history using List.reverseRecOn with
  | nil => rfl
  | append_singleton history update ih =>
    rw [History.store_concat, Update.get?_fields_apply, within.last_keyspace,
      History.standing_concat, ih within.init]
    by_cases own : update.id = id
    · simp [own]
    · simp [own, Ne.symm own]

/-- The registry holds the ids with a standing write, whatever the other sets are used for: a list of
index keys that names it makes its own id leave it only, and that is settled afterwards. -/
theorem mem_registry_store (within : Within keyspace history) :
    id ∈ history.store.members keyspace.registryKey ↔ (history.standing id).isSome := by
  induction history using List.reverseRecOn with
  | nil => simp [Store.empty, Store.members]
  | append_singleton history update ih =>
    have registered : keyspace.registryKey ∈ update.entered ↔ update.write?.isSome :=
      within.last_keyspace ▸ Update.registryKey_mem_entered
    have apart := (keyspace.helperKey_ne_registryKey update.id).symm
    rw [History.store_concat, Update.mem_members_apply, within.last_keyspace, ih within.init,
      registered, History.standing_concat]
    by_cases own : update.id = id
    · subst own
      simp [apart]
    · simp [own, Ne.symm own, apart]

end History.Within

/-- Every update is in the keyspace, and no list of index keys stands at a key that some entry
writes to. -/
structure Orderly (keyspace : Keyspace) (history : History) : Prop where
  keyspace_eq : ∀ update ∈ history, update.keyspace = keyspace
  apart : ∀ key ∈ history.helperKeys, key ∉ history.indexKeys

namespace Orderly

variable {keyspace : Keyspace} {history : History} {update : Update} {id other place : Bytes}

theorem init (orderly : Orderly keyspace (history ++ [update])) : Orderly keyspace history where
  keyspace_eq earlier listed := orderly.keyspace_eq earlier (List.mem_append_left _ listed)
  apart key listed named := orderly.apart key
    (by rw [History.helperKeys, List.map_append]; exact List.mem_append_left _ listed)
    (by rw [History.indexKeys, List.flatMap_append]; exact List.mem_append_left _ named)

theorem last_keyspace (orderly : Orderly keyspace (history ++ [update])) :
    update.keyspace = keyspace :=
  orderly.keyspace_eq update (List.mem_append_right _ List.mem_cons_self)

/-- The list of an id that was updated is at no key of an index set. -/
theorem helperKey_notMem_indexKeys (orderly : Orderly keyspace history)
    (listed : update ∈ history) : keyspace.helperKey update.id ∉ history.indexKeys := by
  refine orderly.apart _ (List.mem_map.mpr ⟨update, listed, ?_⟩)
  rw [orderly.keyspace_eq update listed]

/-- **Fields** are those of the standing write. -/
theorem get?_fields_store (orderly : Orderly keyspace history) :
    history.store.fields.get? (keyspace.entityKey id) =
      (history.standing id).bind Write.stored? :=
  History.Within.get?_fields_store orderly.keyspace_eq

/-- **The registry** holds the ids with a standing write. -/
theorem mem_registry_store (orderly : Orderly keyspace history) :
    id ∈ history.store.members keyspace.registryKey ↔ (history.standing id).isSome :=
  History.Within.mem_registry_store orderly.keyspace_eq

/-- The index sets after one more update: the entity is in those of its new entries, as its list
made it leave all the others. -/
theorem mem_members_concat (orderly : Orderly keyspace (history ++ [update]))
    (other : place ≠ keyspace.registryKey) (free : place ≠ keyspace.helperKey update.id)
    (indexed : ∀ id, id ∈ history.store.members place ↔
      ∃ write, history.standing id = some write ∧ place ∈ write.indexKeys)
    (listed : place ∈ history.store.members (keyspace.helperKey update.id) ↔
      ∃ write, history.standing update.id = some write ∧ place ∈ write.indexKeys) :
    id ∈ (History.store (history ++ [update])).members place ↔
      ∃ write, History.standing (history ++ [update]) id = some write ∧
        place ∈ write.indexKeys := by
  have space := orderly.last_keyspace
  have entered : place ∈ update.entered ↔ place ∈ update.indexKeys :=
    Update.mem_entered_of_ne (space ▸ other)
  rw [History.store_concat, Update.mem_members_apply, space, History.standing_concat, entered,
    Update.mem_indexKeys_iff_exists_write, indexed id, listed]
  by_cases own : update.id = id
  · subst own
    simp only [free, true_and, false_and, false_or, ne_eq, not_false_eq_true, if_pos]
    -- what the entity was in before is what its list named
    exact or_iff_left fun both => both.2 ⟨Or.inr both.1, trivial⟩
  · simp [own, Ne.symm own, free]

/-- The lists of index keys after one more update: the entity's own list is replaced, and no other
one is at a key that the update touches. -/
theorem mem_helper_concat {key : Bytes} (orderly : Orderly keyspace (history ++ [update]))
    (free : keyspace.helperKey id ∉ History.indexKeys (history ++ [update]))
    (listed : ∀ id, keyspace.helperKey id ∉ history.indexKeys → ∀ key,
      (key ∈ history.store.members (keyspace.helperKey id) ↔
        ∃ write, history.standing id = some write ∧ key ∈ write.indexKeys)) :
    key ∈ (History.store (history ++ [update])).members (keyspace.helperKey id) ↔
      ∃ write, History.standing (history ++ [update]) id = some write ∧
        key ∈ write.indexKeys := by
  have space := orderly.last_keyspace
  have last : update ∈ history ++ [update] := List.mem_append_right _ List.mem_cons_self
  have apart := orderly.helperKey_notMem_indexKeys last
  rw [History.indexKeys, List.flatMap_append, List.mem_append, not_or,
    List.flatMap_singleton] at apart free
  have entered : keyspace.helperKey id ∉ update.entered := by
    rw [Update.mem_entered_of_ne (space ▸ keyspace.helperKey_ne_registryKey id)]
    exact free.2
  have unnamed : keyspace.helperKey id ∉ history.store.members (keyspace.helperKey update.id) := by
    rw [listed update.id apart.1]
    rintro ⟨write, stands, named⟩
    exact free.1 (History.mem_indexKeys_of_standing stands named)
  rw [History.store_concat, Update.mem_members_apply, space, History.standing_concat,
    Update.mem_indexKeys_iff_exists_write, listed id free.1]
  by_cases own : update.id = id
  · simp [own, entered]
  · simp [own, Ne.symm own, entered, unnamed]

/-- **Lists of index keys.** A list that no entry writes to names the index sets that the standing
write enters. -/
theorem mem_helper_store (orderly : Orderly keyspace history) :
    ∀ id, keyspace.helperKey id ∉ history.indexKeys → ∀ key,
      (key ∈ history.store.members (keyspace.helperKey id) ↔
        ∃ write, history.standing id = some write ∧ key ∈ write.indexKeys) := by
  induction history using List.reverseRecOn with
  | nil => simp [Store.empty, Store.members]
  | append_singleton history update ih =>
    intro id free key
    exact orderly.mem_helper_concat free (ih orderly.init)

/-- **Index sets.** A set that no list is kept at holds the ids whose standing write enters it. -/
theorem mem_members_store (orderly : Orderly keyspace history)
    (other : place ≠ keyspace.registryKey) (free : place ∉ history.helperKeys) :
    id ∈ history.store.members place ↔
      ∃ write, history.standing id = some write ∧ place ∈ write.indexKeys := by
  induction history using List.reverseRecOn generalizing id with
  | nil => simp [Store.empty, Store.members]
  | append_singleton history update ih =>
    rw [History.helperKeys, List.map_append, List.mem_append, not_or, List.map_singleton,
      List.mem_singleton, orderly.last_keyspace] at free
    have last : update ∈ history ++ [update] := List.mem_append_right _ List.mem_cons_self
    have apart := orderly.helperKey_notMem_indexKeys last
    rw [History.indexKeys, List.flatMap_append, List.mem_append, not_or] at apart
    exact orderly.mem_members_concat other free.2 (fun _ => ih orderly.init free.1)
      (orderly.init.mem_helper_store update.id apart.1 place)

end Orderly

/-! ## Part 4 — positions -/

/-- Every update settles the same paths, each of them once. -/
structure SamePaths (paths : List String) (history : History) : Prop where
  colonFree : ∀ path ∈ paths, ColonFree path
  nodup : paths.Nodup
  perm : ∀ update ∈ history, update.paths.Perm paths

/-- Where no path is listed twice, the last entry of a path is the first one. -/
theorem getLast?_filter_path {entries : List PositionEntry}
    (nodup : (entries.map (·.path)).Nodup) (path : String) :
    (entries.filter (·.path = path)).getLast? = entries.find? (·.path = path) := by
  induction entries with
  | nil => rfl
  | cons entry entries ih =>
    rw [List.map_cons, List.nodup_cons] at nodup
    by_cases here : entry.path = path
    · have alone : entries.filter (·.path = path) = [] := by
        rw [List.filter_eq_nil_iff]
        intro later listed same
        exact nodup.1 (List.mem_map.mpr ⟨later, listed, (of_decide_eq_true same).trans here.symm⟩)
      simp [here, alone]
    · simp [here, ih nodup.2]

namespace Update

variable {update : Update} {path : String}

/-- An entry of an update gives the point of what is written, and none where nothing is. -/
theorem point_of_find? {entry : PositionEntry}
    (found : update.moves.find? (·.path = path) = some entry) :
    entry.point = update.write?.bind (·.pointAt? path) := by
  cases update with
  | put write =>
    show entry.point = write.pointAt? path
    rw [Write.pointAt?, show write.positions.find? (·.path = path) = some entry from found]
    rfl
  | delete keyspace id paths =>
    obtain ⟨listed, _, rfl⟩ := List.mem_map.mp (List.mem_of_find?_eq_some found)
    rfl

theorem find?_moves_eq_none (unlisted : path ∉ update.paths) :
    update.moves.find? (·.path = path) = none := by
  rw [List.find?_eq_none]
  intro entry listed same
  exact unlisted (List.mem_map.mpr ⟨entry, listed, of_decide_eq_true same⟩)

/-- A path that an update does not settle has no point in what it writes. -/
theorem bind_pointAt?_eq_none (unlisted : path ∉ update.paths) :
    update.write?.bind (·.pointAt? path) = none := by
  cases update with
  | put write =>
    have absent : write.positions.find? (·.path = path) = none := find?_moves_eq_none unlisted
    show write.pointAt? path = none
    rw [Write.pointAt?, absent]
    rfl
  | delete keyspace id paths => rfl

end Update

namespace SamePaths

variable {paths : List String} {keyspace : Keyspace} {history : History} {update : Update}
  {id : Bytes} {path : String}

theorem init (same : SamePaths paths (history ++ [update])) : SamePaths paths history :=
  ⟨same.colonFree, same.nodup,
    fun earlier listed => same.perm earlier (List.mem_append_left _ listed)⟩

/-- What an update settles at a path, seen from the key of its positions. -/
theorem getLast?_filter_geoKey (same : SamePaths paths history) (listed : update ∈ history)
    (free : ColonFree path) :
    (update.moves.filter fun entry =>
      keyspace.geoKey path = keyspace.geoKey entry.path).getLast? =
        update.moves.find? (·.path = path) := by
  have perm := same.perm update listed
  rw [← getLast?_filter_path (perm.nodup_iff.mpr same.nodup)]
  congr 1
  refine List.filter_congr fun entry member => ?_
  have entryFree : ColonFree entry.path :=
    same.colonFree _ (perm.subset (List.mem_map.mpr ⟨entry, member, rfl⟩))
  rw [decide_eq_decide, Keyspace.geoKey_inj free entryFree, eq_comm]

/-- A path that the updates do not settle has no point in any standing write. -/
theorem standing_bind_eq_none (same : SamePaths paths history) (unlisted : path ∉ paths) :
    (history.standing id).bind (·.pointAt? path) = none := by
  cases stands : history.standing id with
  | none => rfl
  | some write =>
    have listed := (History.mem_of_standing stands).1
    have unsettled : path ∉ (Update.put write).paths :=
      fun settled => unlisted ((same.perm _ listed).subset settled)
    exact Update.bind_pointAt?_eq_none unsettled

/-- **Positions** are the points of the standing writes. -/
theorem position?_store (same : SamePaths paths history) (orderly : Orderly keyspace history)
    (free : ColonFree path) :
    history.store.position? (keyspace.geoKey path) id =
      (history.standing id).bind (·.pointAt? path) := by
  induction history using List.reverseRecOn with
  | nil => rfl
  | append_singleton history update ih =>
    have last : update ∈ history ++ [update] := List.mem_append_right _ List.mem_cons_self
    rw [History.store_concat, Update.position?_apply, orderly.last_keyspace,
      same.getLast?_filter_geoKey last free, ih same.init orderly.init, History.standing_concat]
    by_cases own : id = update.id
    · rw [if_pos own, if_pos own.symm]
      by_cases listed : path ∈ paths
      · have settled : path ∈ update.paths := (same.perm update last).mem_iff.mpr listed
        obtain ⟨entry, member, named⟩ := List.mem_map.mp settled
        have some : (update.moves.find? (·.path = path)).isSome :=
          List.find?_isSome.mpr ⟨entry, member, decide_eq_true named⟩
        obtain ⟨found, here⟩ := Option.isSome_iff_exists.mp some
        rw [here]
        exact Update.point_of_find? here
      · have unlisted : path ∉ update.paths :=
          fun settled => listed ((same.perm update last).subset settled)
        rw [Update.find?_moves_eq_none unlisted, Update.bind_pointAt?_eq_none unlisted]
        exact same.init.standing_bind_eq_none listed
    · rw [if_neg own, if_neg (Ne.symm own)]

end SamePaths

end SecondaryIndex
