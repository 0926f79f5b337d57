/-
**What writing and removing an entity do to every key of a store.**

A store is read through three views: the fields at a key, the members of a set and the position of a
member. For each step of an update there is one lemma a view, and none for the views that the step
leaves alone beyond the table it does not touch.

* `mem_members_leaveSets` — an entity that leaves its sets leaves exactly those that its own list
  names, and the list itself goes;
* `mem_members_put`, `get?_fields_put`, `position?_put` — every view after a write;
* `mem_members_delete`, `get?_fields_delete`, `position?_delete` — every view after a removal;
* `Tidy` — no key holds an empty set or no positions; kept by both updates (`Tidy.put`,
  `Tidy.delete`).
-/

import Mathlib.Data.List.Induction
import SecondaryIndex.Proofs.Keys
import SecondaryIndex.Store.Update

namespace SecondaryIndex

/-- The last of the picked items, when one more item comes. -/
theorem getLast?_filter_concat {α : Type} (picked : α → Bool) (items : List α) (item : α) :
    ((items ++ [item]).filter picked).getLast? =
      if picked item then some item else (items.filter picked).getLast? := by
  rw [List.filter_append, List.getLast?_append]
  cases own : picked item <;> simp [own]

namespace Store

/-! ## Part 1 — single changes -/

section Changes

variable {store : Store} {key member other place : Bytes}

@[simp] theorem mem_members_addMember :
    other ∈ (store.addMember key member).members place ↔
      other ∈ store.members place ∨ (place = key ∧ other = member) := by
  rw [addMember, members_setMembers]
  split
  · rename_i same
    subst same
    simp
  · rename_i different
    simp [different]

@[simp] theorem mem_members_removeMember :
    other ∈ (store.removeMember key member).members place ↔
      other ∈ store.members place ∧ ¬ (place = key ∧ other = member) := by
  rw [removeMember, members_setMembers]
  split
  · rename_i same
    subst same
    simp
  · rename_i different
    simp [different]

@[simp] theorem mem_members_dropSet :
    other ∈ (store.dropSet key).members place ↔ place ≠ key ∧ other ∈ store.members place := by
  rw [members_dropSet]
  split
  · rename_i same
    simp [same]
  · rename_i different
    simp [different]

@[simp] theorem position?_removePosition :
    (store.removePosition key member).position? place other =
      if place = key ∧ other = member then none else store.position? place other := by
  rw [position?, removePosition, positionsAt_setPositions]
  by_cases same : place = key
  · subst same
    simp [position?]
  · simp [same, position?]

@[simp] theorem position?_setPosition (point : Point) :
    (store.setPosition key member point).position? place other =
      if place = key ∧ other = member then some point else store.position? place other := by
  rw [position?, setPosition, positionsAt_setPositions]
  by_cases same : place = key
  · subst same
    simp [position?]
  · simp [same, position?]

end Changes

/-! ## Part 2 — the steps of an update -/

section Steps

variable {store : Store} {keyspace : Keyspace} {id other place : Bytes}

/-- A fold whose steps leave a view alone leaves it alone. -/
theorem foldl_view {σ α β : Type} {step : σ → α → σ} (view : σ → β)
    (kept : ∀ state item, view (step state item) = view state) (items : List α) (state : σ) :
    view (items.foldl step state) = view state := by
  induction items generalizing state with
  | nil => rfl
  | cons item items ih => rw [List.foldl_cons, ih, kept]

theorem mem_members_foldl_removeMember (keys : List Bytes) :
    other ∈ (keys.foldl (fun store key => store.removeMember key id) store).members place ↔
      other ∈ store.members place ∧ ¬ (place ∈ keys ∧ other = id) := by
  induction keys generalizing store with
  | nil => simp
  | cons key keys ih =>
    rw [List.foldl_cons, ih, mem_members_removeMember, List.mem_cons]
    grind

/-- **An entity leaves exactly the sets that its own list names**, and the list goes. -/
theorem mem_members_leaveSets :
    other ∈ (store.leaveSets keyspace id).members place ↔
      place ≠ keyspace.helperKey id ∧ other ∈ store.members place ∧
        ¬ (place ∈ store.members (keyspace.helperKey id) ∧ other = id) := by
  rw [leaveSets, mem_members_dropSet, mem_members_foldl_removeMember]
  rfl

@[simp] theorem fields_leaveSets : (store.leaveSets keyspace id).fields = store.fields := by
  refine foldl_view fields ?_ _ store
  exact fun _ _ => rfl

@[simp] theorem positions_leaveSets :
    (store.leaveSets keyspace id).positions = store.positions := by
  refine foldl_view positions ?_ _ store
  exact fun _ _ => rfl

@[simp] theorem sets_storeFields (fields : Fields) :
    (store.storeFields keyspace id fields).sets = store.sets := by
  unfold storeFields
  dsimp only
  split <;> rfl

@[simp] theorem positions_storeFields (fields : Fields) :
    (store.storeFields keyspace id fields).positions = store.positions := by
  unfold storeFields
  dsimp only
  split <;> rfl

theorem get?_fields_storeFields (fields : Fields) :
    (store.storeFields keyspace id fields).fields.get? place =
      if place = keyspace.entityKey id then (if fields.isEmpty then none else some fields)
      else store.fields.get? place := by
  unfold storeFields
  dsimp only
  split
  · rw [dropFields, ByteMap.get?_erase]
  · rw [setFields, ByteMap.get?_insert]

/-- An entity enters the sets of its entries, and its list names them. -/
theorem mem_members_foldl_enterSet (entries : List IndexEntry) :
    other ∈ (entries.foldl (enterSet keyspace id) store).members place ↔
      other ∈ store.members place ∨
        (place ∈ entries.map (fun entry => keyspace.indexKey entry.path entry.value.bytes) ∧
          other = id) ∨
        (place = keyspace.helperKey id ∧
          other ∈ entries.map fun entry => keyspace.indexKey entry.path entry.value.bytes) := by
  induction entries generalizing store with
  | nil => simp
  | cons entry entries ih =>
    rw [List.foldl_cons, ih, enterSet, mem_members_addMember, mem_members_addMember, List.map_cons,
      List.mem_cons, List.mem_cons]
    grind

@[simp] theorem fields_foldl_enterSet (entries : List IndexEntry) :
    (entries.foldl (enterSet keyspace id) store).fields = store.fields := by
  refine foldl_view fields ?_ entries store
  exact fun _ _ => rfl

@[simp] theorem positions_foldl_enterSet (entries : List IndexEntry) :
    (entries.foldl (enterSet keyspace id) store).positions = store.positions := by
  refine foldl_view positions ?_ entries store
  exact fun _ _ => rfl

@[simp] theorem sets_enterPosition (entry : PositionEntry) :
    (enterPosition keyspace id store entry).sets = store.sets := by
  unfold enterPosition
  dsimp only
  split <;> rfl

@[simp] theorem fields_enterPosition (entry : PositionEntry) :
    (enterPosition keyspace id store entry).fields = store.fields := by
  unfold enterPosition
  dsimp only
  split <;> rfl

theorem position?_enterPosition (entry : PositionEntry) :
    (enterPosition keyspace id store entry).position? place other =
      if place = keyspace.geoKey entry.path ∧ other = id then entry.point
      else store.position? place other := by
  unfold enterPosition
  dsimp only
  split
  · rename_i point set
    rw [position?_setPosition, position?_removePosition]
    split <;> simp_all
  · rename_i unset
    rw [position?_removePosition]
    split <;> simp_all

@[simp] theorem sets_foldl_enterPosition (entries : List PositionEntry) :
    (entries.foldl (enterPosition keyspace id) store).sets = store.sets :=
  foldl_view sets (fun _ entry => sets_enterPosition entry) entries store

@[simp] theorem fields_foldl_enterPosition (entries : List PositionEntry) :
    (entries.foldl (enterPosition keyspace id) store).fields = store.fields :=
  foldl_view Store.fields (fun _ entry => fields_enterPosition entry) entries store

/-- Of several entries for one key the last one decides. -/
theorem position?_foldl_enterPosition (entries : List PositionEntry) :
    (entries.foldl (enterPosition keyspace id) store).position? place other =
      if other = id then
        (entries.filter fun entry => place = keyspace.geoKey entry.path).getLast?.elim
          (store.position? place other) PositionEntry.point
      else store.position? place other := by
  induction entries using List.reverseRecOn with
  | nil => simp
  | append_singleton entries entry ih =>
    rw [List.foldl_append, List.foldl_cons, List.foldl_nil, position?_enterPosition, ih,
      getLast?_filter_concat]
    by_cases here : place = keyspace.geoKey entry.path <;> by_cases own : other = id <;>
      simp [here, own]

end Steps

/-! ## Part 3 — whole updates -/

section Updates

variable {store : Store} {keyspace : Keyspace} {id other place : Bytes} {write : Write}
  {paths : List String}

/-- **The sets after a write.** The entity is registered and in the sets of its entries, its list
names these, and it has left what the list named before. -/
theorem mem_members_put :
    other ∈ (store.put write).members place ↔
      (other = write.id ∧ (place = write.keyspace.registryKey ∨ place ∈ write.indexKeys)) ∨
      (place = write.keyspace.helperKey write.id ∧ other ∈ write.indexKeys) ∨
      (place ≠ write.keyspace.helperKey write.id ∧ other ∈ store.members place ∧
        ¬ (place ∈ store.members (write.keyspace.helperKey write.id) ∧ other = write.id)) := by
  have base : (store.put write).members place =
      (write.indexes.foldl (enterSet write.keyspace write.id)
        (((store.leaveSets write.keyspace write.id).storeFields write.keyspace write.id
          write.record.fields).addMember write.keyspace.registryKey write.id)).members place := by
    rw [put, members, sets_foldl_enterPosition]
    rfl
  have stored : ((store.leaveSets write.keyspace write.id).storeFields write.keyspace write.id
      write.record.fields).members place =
        (store.leaveSets write.keyspace write.id).members place := by
    rw [members, sets_storeFields]
    rfl
  rw [base, mem_members_foldl_enterSet, mem_members_addMember, stored, mem_members_leaveSets,
    ← Write.indexKeys]
  grind

/-- The fields after a write: those of the entity are replaced, and no fields leave no key. -/
theorem get?_fields_put :
    (store.put write).fields.get? place =
      if place = write.keyspace.entityKey write.id then
        (if write.record.fields.isEmpty then none else some write.record.fields)
      else store.fields.get? place := by
  rw [put, fields_foldl_enterPosition, fields_foldl_enterSet]
  show (storeFields _ _ _ _).fields.get? place = _
  rw [get?_fields_storeFields, fields_leaveSets]

/-- The positions after a write: the last entry of a path decides where the entity is. -/
theorem position?_put :
    (store.put write).position? place other =
      if other = write.id then
        (write.positions.filter fun entry =>
          place = write.keyspace.geoKey entry.path).getLast?.elim
            (store.position? place other) PositionEntry.point
      else store.position? place other := by
  rw [put, position?_foldl_enterPosition]
  have kept : (write.indexes.foldl (enterSet write.keyspace write.id)
      (((store.leaveSets write.keyspace write.id).storeFields write.keyspace write.id
        write.record.fields).addMember write.keyspace.registryKey write.id)).position? place other =
        store.position? place other := by
    rw [position?, positionsAt, positions_foldl_enterSet]
    show ((((store.leaveSets _ _).storeFields _ _ _).positions.get? place).getD ∅).get? other = _
    rw [positions_storeFields, positions_leaveSets]
    rfl
  rw [kept]

/-- Leaving a position is the same as an entry without a point. -/
theorem withdraw_eq :
    store.withdraw keyspace id paths =
      (paths.map (PositionEntry.mk · none)).foldl (enterPosition keyspace id)
        (store.leaveSets keyspace id) := by
  rw [withdraw, List.foldl_map]
  rfl

/-- **The sets after a removal.** The entity has left the registry and what its list named. -/
theorem mem_members_delete :
    other ∈ (store.delete keyspace id paths).members place ↔
      place ≠ keyspace.helperKey id ∧ other ∈ store.members place ∧
        ¬ ((place = keyspace.registryKey ∨ place ∈ store.members (keyspace.helperKey id)) ∧
          other = id) := by
  have base : (store.delete keyspace id paths).members place =
      ((store.withdraw keyspace id paths).removeMember keyspace.registryKey id).members place := rfl
  have withdrawn : (store.withdraw keyspace id paths).members place =
      (store.leaveSets keyspace id).members place := by
    rw [withdraw_eq, members, sets_foldl_enterPosition]
    rfl
  rw [base, mem_members_removeMember, withdrawn, mem_members_leaveSets]
  grind

/-- The fields after a removal: those of the entity are gone. -/
theorem get?_fields_delete :
    (store.delete keyspace id paths).fields.get? place =
      if place = keyspace.entityKey id then none else store.fields.get? place := by
  have base : (store.delete keyspace id paths).fields =
      (store.withdraw keyspace id paths).fields.erase (keyspace.entityKey id) := rfl
  rw [base, ByteMap.get?_erase, withdraw_eq, fields_foldl_enterPosition, fields_leaveSets]

/-- The positions after a removal: as after a write that leaves all the paths unset. -/
theorem position?_delete :
    (store.delete keyspace id paths).position? place other =
      if other = id then
        ((paths.map (PositionEntry.mk · none)).filter fun entry =>
          place = keyspace.geoKey entry.path).getLast?.elim
            (store.position? place other) PositionEntry.point
      else store.position? place other := by
  have base : (store.delete keyspace id paths).position? place other =
      (store.withdraw keyspace id paths).position? place other := rfl
  have kept : (store.leaveSets keyspace id).position? place other =
      store.position? place other := by
    rw [position?, positionsAt, positions_leaveSets]
    rfl
  rw [base, withdraw_eq, position?_foldl_enterPosition, kept]

end Updates

/-! ## Part 4 — no empty collections -/

/-- No key holds an empty set, and none holds no positions. -/
structure Tidy (store : Store) : Prop where
  sets : ∀ key set, store.sets.get? key = some set → set ≠ ∅
  positions : ∀ key points, store.positions.get? key = some points → points ≠ ∅

namespace Tidy

variable {store : Store} {key : Bytes} (keyspace : Keyspace) (id : Bytes)

theorem empty : Store.empty.Tidy where
  sets key set found := by cases found
  positions key points found := by cases found

/-- A tidy store holds a set at a key exactly if the set has members. -/
theorem get?_sets_eq_none_iff (tidy : store.Tidy) :
    store.sets.get? key = none ↔ ∀ member, ¬ member ∈ store.members key := by
  constructor
  · intro absent member
    rw [members, absent]
    exact InsertionSet.not_mem_empty member
  · intro none
    by_cases absent : store.sets.get? key = Option.none
    · exact absent
    · obtain ⟨set, found⟩ := Option.ne_none_iff_exists'.mp absent
      refine (tidy.sets key set found ?_).elim
      refine InsertionSet.ext (List.eq_nil_iff_forall_not_mem.mpr fun member => ?_)
      have := none member
      rwa [members, found] at this

theorem setMembers (tidy : store.Tidy) (set : InsertionSet Bytes) :
    (store.setMembers key set).Tidy where
  sets other held found := by
    rw [Store.setMembers] at found
    dsimp only at found
    split at found
    · rw [ByteMap.get?_erase] at found
      split at found
      · cases found
      · exact tidy.sets other held found
    · rename_i some
      rw [ByteMap.get?_insert] at found
      split at found
      · cases found
        exact fun none => some (InsertionSet.isEmpty_iff.mpr none)
      · exact tidy.sets other held found
  positions := tidy.positions

theorem dropSet (tidy : store.Tidy) : (store.dropSet key).Tidy where
  sets other held found := by
    rw [Store.dropSet, ByteMap.get?_erase] at found
    split at found
    · cases found
    · exact tidy.sets other held found
  positions := tidy.positions

theorem setPositions (tidy : store.Tidy) (points : InsertionMap Bytes Point) :
    (store.setPositions key points).Tidy where
  sets := tidy.sets
  positions other held found := by
    rw [Store.setPositions] at found
    dsimp only at found
    split at found
    · rw [ByteMap.get?_erase] at found
      split at found
      · cases found
      · exact tidy.positions other held found
    · rename_i some
      rw [ByteMap.get?_insert] at found
      split at found
      · cases found
        exact fun none => some (InsertionMap.isEmpty_iff.mpr none)
      · exact tidy.positions other held found

theorem foldl {α : Type} {step : Store → α → Store}
    (kept : ∀ store item, store.Tidy → (step store item).Tidy) (items : List α)
    (tidy : store.Tidy) : (items.foldl step store).Tidy := by
  induction items generalizing store with
  | nil => exact tidy
  | cons item items ih => exact ih (kept store item tidy)

theorem leaveSets (tidy : store.Tidy) : (store.leaveSets keyspace id).Tidy :=
  dropSet (foldl (fun _ _ held => held.setMembers _) _ tidy)

theorem storeFields (tidy : store.Tidy) (fields : Fields) :
    (store.storeFields keyspace id fields).Tidy where
  sets := by
    rw [sets_storeFields]
    exact tidy.sets
  positions := by
    rw [positions_storeFields]
    exact tidy.positions

theorem enterPosition (tidy : store.Tidy) (entry : PositionEntry) :
    (enterPosition keyspace id store entry).Tidy := by
  unfold Store.enterPosition
  dsimp only
  split
  · exact (tidy.setPositions _).setPositions _
  · exact tidy.setPositions _

theorem put (tidy : store.Tidy) (write : Write) : (store.put write).Tidy := by
  have registered := (tidy.leaveSets write.keyspace write.id).storeFields write.keyspace write.id
    write.record.fields
  refine foldl (fun _ entry held => held.enterPosition _ _ entry) _ ?_
  refine foldl (fun _ _ held => (held.setMembers _).setMembers _) _ ?_
  exact registered.setMembers _

theorem delete (tidy : store.Tidy) (paths : List String) :
    (store.delete keyspace id paths).Tidy := by
  have withdrawn : (store.withdraw keyspace id paths).Tidy := by
    rw [withdraw_eq]
    exact foldl (fun _ entry held => held.enterPosition _ _ entry) _ (tidy.leaveSets keyspace id)
  exact ⟨(withdrawn.setMembers _).sets, withdrawn.positions⟩

end Tidy

end Store

end SecondaryIndex
