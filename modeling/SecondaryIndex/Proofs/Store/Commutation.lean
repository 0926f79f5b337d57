/-
**Updates of different entities may change places.**

Two updates of one keyspace share its registry, and they may share index sets and positions, which
each of them may empty or make anew. Only the order of members remembers which one came first:

* `Store.Alike` — two stores hold the same, the order of members apart;
* `Update.alike_apply` — an update makes alike of alike;
* `Update.Spares` — an update leaves the list of another entity as it is, and so what an update of
  that entity finds (`Spares.status_eq`);
* `Update.Spares.alike` — updates that spare each other lead to the same in either order;
* `Orderly.alike_of_perm` — so do any number of updates of different ids after a history.
-/

import SecondaryIndex.Proofs.Store.Order

namespace SecondaryIndex

/-! ## Part 1 — stores that differ in order only -/

/-- Two stores have the same fields, the same members of every set and the same positions. -/
structure Store.Alike (first second : Store) : Prop where
  fields : first.fields = second.fields
  members : ∀ key id, id ∈ first.members key ↔ id ∈ second.members key
  positions : ∀ key id, first.position? key id = second.position? key id

namespace Store.Alike

variable {first second third : Store}

theorem refl (store : Store) : store.Alike store :=
  ⟨rfl, fun _ _ => Iff.rfl, fun _ _ => rfl⟩

theorem symm (alike : first.Alike second) : second.Alike first where
  fields := alike.fields.symm
  members key id := (alike.members key id).symm
  positions key id := (alike.positions key id).symm

theorem trans (left : first.Alike second) (right : second.Alike third) : first.Alike third where
  fields := left.fields.trans right.fields
  members key id := (left.members key id).trans (right.members key id)
  positions key id := (left.positions key id).trans (right.positions key id)

end Store.Alike

namespace Update

variable {first second store : Store} {update other : Update} {place id : Bytes}

/-- **An update makes alike of alike.** -/
theorem alike_apply (alike : first.Alike second) (update : Update) :
    (update.apply first).Alike (update.apply second) where
  fields := ByteMap.ext_get? fun key => by
    rw [get?_fields_apply, get?_fields_apply, alike.fields]
  members key id := by
    rw [mem_members_apply, mem_members_apply, alike.members, alike.members]
  positions key id := by
    rw [position?_apply, position?_apply, alike.positions]

theorem alike_foldl (alike : first.Alike second) (updates : List Update) :
    (updates.foldl apply first).Alike (updates.foldl apply second) := by
  induction updates generalizing first second with
  | nil => exact alike
  | cons update updates ih => exact ih (alike_apply alike update)

/-! ## Part 2 — two updates -/

/-- An update is of another id of the keyspace, nothing that it does touches the list of that id,
and the list does not name the registry. -/
structure Spares (update other : Update) (store : Store) : Prop where
  keyspace : update.keyspace = other.keyspace
  id : update.id ≠ other.id
  entered : other.keyspace.helperKey other.id ∉ update.entered
  left : other.keyspace.helperKey other.id ∉
    store.members (update.keyspace.helperKey update.id)
  unlisted : other.keyspace.registryKey ∉ store.members (other.keyspace.helperKey other.id)

namespace Spares

theorem helperKey_ne (spares : update.Spares other store) :
    other.keyspace.helperKey other.id ≠ update.keyspace.helperKey update.id := by
  rw [spares.keyspace, Ne, Keyspace.helperKey_inj]
  exact spares.id.symm

/-- The list of the other entity stays. -/
theorem mem_list (spares : update.Spares other store) :
    place ∈ (update.apply store).members (other.keyspace.helperKey other.id) ↔
      place ∈ store.members (other.keyspace.helperKey other.id) := by
  have registry : other.keyspace.helperKey other.id ≠ update.keyspace.registryKey := by
    rw [spares.keyspace]
    exact other.keyspace.helperKey_ne_registryKey other.id
  rw [mem_members_apply, or_iff_right fun both => spares.entered both.2,
    or_iff_right fun both => spares.helperKey_ne both.1, and_iff_right spares.helperKey_ne]
  exact and_iff_left fun both => both.1.elim registry spares.left

/-- The registration of the other entity stays. -/
theorem mem_registry (spares : update.Spares other store) :
    other.id ∈ (update.apply store).members other.keyspace.registryKey ↔
      other.id ∈ store.members other.keyspace.registryKey := by
  have list := other.keyspace.helperKey_ne_registryKey update.id
  rw [mem_members_apply, spares.keyspace]
  simp [spares.id.symm, list.symm]

/-- **What became of a removal does not depend on updates that spare its entity.** -/
theorem status_eq (spares : update.Spares other store) :
    other.status? ((update.apply store).reply other.request) =
      other.status? (store.reply other.request) := by
  cases other with
  | put write => rfl
  | delete keyspace id paths =>
    have unlisted : keyspace.registryKey ∉
        (update.apply store).members (keyspace.helperKey id) :=
      fun named => spares.unlisted (spares.mem_list.mp named)
    have registered := spares.mem_registry
    have entity : keyspace.entityKey id ≠ update.keyspace.entityKey update.id := by
      rw [spares.keyspace]
      exact fun same => spares.id (Keyspace.entityKey_inj.mp same).symm
    have fields : (update.apply store).fields.contains (keyspace.entityKey id) =
        store.fields.contains (keyspace.entityKey id) := by
      rw [ByteMap.contains, ByteMap.contains, get?_fields_apply, if_neg entity]
    have removal : (update.apply store).removal keyspace id paths =
        store.removal keyspace id paths := by
      have before : keyspace.registryKey ∉ store.members (keyspace.helperKey id) := spares.unlisted
      rw [Store.removal_eq unlisted, Store.removal_eq before, fields]
      exact congrArg (Store.Removal.mk · _) (decide_eq_decide.mpr registered)
    exact congrArg (fun removal => some removal.status) removal

/-- **Updates that spare each other lead to the same in either order.** -/
theorem alike (there : update.Spares other store) (back : other.Spares update store) :
    (other.apply (update.apply store)).Alike (update.apply (other.apply store)) where
  fields := ByteMap.ext_get? fun key => by
    have different : update.keyspace.entityKey update.id ≠ other.keyspace.entityKey other.id := by
      rw [there.keyspace]
      exact fun same => there.id (Keyspace.entityKey_inj.mp same)
    rw [get?_fields_apply, get?_fields_apply, get?_fields_apply, get?_fields_apply]
    by_cases one : key = update.keyspace.entityKey update.id
    · rw [if_neg (one ▸ different), if_pos one, if_pos one]
    · rw [if_neg one, if_neg one]
  members key id := by
    rw [@mem_members_apply (update.apply store) other,
      @mem_members_apply (other.apply store) update, there.mem_list, back.mem_list,
      mem_members_apply, mem_members_apply, ← there.keyspace]
    have lists := there.helperKey_ne
    have ids := there.id
    have registry := update.keyspace.helperKey_ne_registryKey other.id
    have ownRegistry := update.keyspace.helperKey_ne_registryKey update.id
    have entered := there.entered
    have ownEntered := back.entered
    have left := there.left
    have ownLeft := back.left
    rw [← there.keyspace] at lists entered left ownLeft
    grind
  positions key id := by
    rw [position?_apply, position?_apply, position?_apply, position?_apply]
    by_cases one : id = update.id
    · rw [if_neg (one ▸ there.id), if_pos one, if_pos one, if_neg (one ▸ there.id)]
    · rw [if_neg one, if_neg one]

end Spares

end Update

/-! ## Part 3 — updates after a history -/

namespace Orderly

variable {keyspace : Keyspace} {history made reordered : History} {update other : Update}

/-- After a history, updates of different ids spare each other. -/
theorem spares (orderly : Orderly keyspace (history ++ made)) (listed : update ∈ made)
    (otherListed : other ∈ made) (different : update.id ≠ other.id) :
    update.Spares other history.store := by
  have earlier : Orderly keyspace history :=
    orderly.of_forall fun update listed => .inl (List.mem_append_left _ listed)
  have apart : ∀ update ∈ made, keyspace.helperKey update.id ∉ history.indexKeys ∧
      ∀ writer ∈ made, keyspace.helperKey update.id ∉ writer.indexKeys := by
    intro update listed
    have apart := orderly.helperKey_notMem_indexKeys (List.mem_append_right _ listed)
    rw [History.indexKeys, List.flatMap_append, List.mem_append, not_or] at apart
    exact ⟨apart.1, fun writer writing named =>
      apart.2 (List.mem_flatMap.mpr ⟨writer, writing, named⟩)⟩
  have space : update.keyspace = keyspace :=
    orderly.keyspace_eq update (List.mem_append_right _ listed)
  have otherSpace : other.keyspace = keyspace :=
    orderly.keyspace_eq other (List.mem_append_right _ otherListed)
  refine ⟨space.trans otherSpace.symm, different, ?_, ?_, ?_⟩
  · rw [otherSpace, Update.mem_entered_of_ne (space ▸ keyspace.helperKey_ne_registryKey other.id)]
    exact (apart other otherListed).2 update listed
  · rw [space, otherSpace, earlier.mem_helper_store update.id (apart update listed).1]
    rintro ⟨write, stands, named⟩
    exact (apart other otherListed).1 (History.mem_indexKeys_of_standing stands named)
  · rw [otherSpace]
    exact earlier.registryKey_notMem_list (apart other otherListed).1

/-- **Updates of different ids may be made in any order.** -/
theorem alike_of_perm (perm : made.Perm reordered) (orderly : Orderly keyspace (history ++ made))
    (nodup : (made.map Update.id).Nodup) :
    (History.store (history ++ made)).Alike (History.store (history ++ reordered)) := by
  induction perm generalizing history with
  | nil => exact .refl _
  | cons update perm ih =>
    rw [List.map_cons, List.nodup_cons] at nodup
    rw [List.append_cons] at orderly
    have alike := ih orderly nodup.2
    rwa [← List.append_cons, ← List.append_cons] at alike
  | swap update other rest =>
    rw [List.map_cons, List.map_cons, List.nodup_cons, List.mem_cons, not_or] at nodup
    have there := orderly.spares (by simp) (by simp) nodup.1.1
    have back := orderly.spares (by simp) (by simp) (Ne.symm nodup.1.1)
    rw [History.store, List.foldl_append, History.store, List.foldl_append]
    exact Update.alike_foldl (there.alike back) rest
  | trans perm _ ihFirst ihSecond =>
    have between : Orderly keyspace (history ++ _) :=
      orderly.of_forall fun update listed => .inl (((perm.append_left history).mem_iff).mpr listed)
    exact (ihFirst orderly nodup).trans
      (ihSecond between ((perm.map Update.id).nodup_iff.mp nodup))

end Orderly

end SecondaryIndex
