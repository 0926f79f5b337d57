/-
**What an update leaves at a key, the order of members included.**

An update takes an entity out of the sets that its list names and puts it at the end of the sets
that it enters; who stays keeps their order. Read so, an update is a function of what was at the key
and of the list:

* `Update.members_apply`, `Update.positionsAt_apply` — every set and all positions after an update;
* `Store.removal_eq` — what a removal finds;
* `Store.Tidy.eq_of_sameAt` — tidy stores that have the same at every key are equal;
* `Update.sameAt_apply_congr` — stores that have the same at a key and at the list of an entity have
  the same there after an update of it;
* `Update.sameAt_apply` — what is at a key that the update does not name stays.
-/

import SecondaryIndex.Proofs.Store.History

namespace SecondaryIndex

namespace Store

variable {store : Store} {keyspace : Keyspace} {id place : Bytes} {write : Write}
  {paths : List String}

/-! ## Part 1 — sets -/

theorem members_foldl_removeMember (keys : List Bytes) :
    (keys.foldl (fun store key => store.removeMember key id) store).members place =
      if place ∈ keys then (store.members place).erase id else store.members place := by
  induction keys generalizing store with
  | nil => rfl
  | cons key keys ih =>
    rw [List.foldl_cons, ih, removeMember, members_setMembers]
    by_cases here : place = key
    · subst here
      simp [InsertionSet.erase_erase]
    · simp [here]

/-- An entity closes its gap in the sets that its own list names. -/
theorem members_leaveSets :
    (store.leaveSets keyspace id).members place =
      if place = keyspace.helperKey id then ∅
      else if place ∈ store.members (keyspace.helperKey id) then (store.members place).erase id
      else store.members place := by
  rw [leaveSets, members_dropSet, members_foldl_removeMember]
  simp only [InsertionSet.mem_def]

/-- An entity goes to the end of the sets that it enters, and their keys to the end of its list. -/
theorem members_foldl_enterSet (entries : List IndexEntry)
    (apart : keyspace.helperKey id ∉
      entries.map fun entry => keyspace.indexKey entry.path entry.value.bytes) :
    (entries.foldl (enterSet keyspace id) store).members place =
      if place = keyspace.helperKey id then
        (store.members place).insertAll
          (entries.map fun entry => keyspace.indexKey entry.path entry.value.bytes)
      else if place ∈ entries.map fun entry => keyspace.indexKey entry.path entry.value.bytes then
        (store.members place).insert id
      else store.members place := by
  induction entries generalizing store with
  | nil => simp [InsertionSet.insertAll]
  | cons entry entries ih =>
    rw [List.map_cons, List.mem_cons, not_or] at apart
    rw [List.foldl_cons, ih apart.2, enterSet, addMember, members_setMembers, addMember,
      members_setMembers, members_setMembers, List.map_cons]
    by_cases list : place = keyspace.helperKey id
    · subst list
      simp [apart.1, InsertionSet.insertAll]
    · by_cases here : place = keyspace.indexKey entry.path entry.value.bytes
      · subst here
        simp [list, InsertionSet.insert_insert]
      · simp [list, here]

/-- The sets after a write. -/
theorem members_put (apart : write.keyspace.helperKey write.id ∉ write.indexKeys) :
    (store.put write).members place =
      if place = write.keyspace.helperKey write.id then .ofList write.indexKeys
      else if place ∈ write.keyspace.registryKey :: write.indexKeys then
        ((store.leaveSets write.keyspace write.id).members place).insert write.id
      else (store.leaveSets write.keyspace write.id).members place := by
  have positioned : (store.put write).members place =
      (write.indexes.foldl (enterSet write.keyspace write.id)
        (((store.leaveSets write.keyspace write.id).storeFields write.keyspace write.id
          write.record.fields).addMember write.keyspace.registryKey write.id)).members place := by
    rw [put, members, sets_foldl_enterPosition]
    rfl
  have stored : ∀ key, ((store.leaveSets write.keyspace write.id).storeFields write.keyspace
      write.id write.record.fields).members key =
        (store.leaveSets write.keyspace write.id).members key := by
    intro key
    rw [members, sets_storeFields]
    rfl
  rw [positioned, members_foldl_enterSet write.indexes apart, addMember, members_setMembers, stored,
    stored, ← Write.indexKeys]
  by_cases list : place = write.keyspace.helperKey write.id
  · subst list
    simp [members_leaveSets, InsertionSet.ofList]
  · by_cases registry : place = write.keyspace.registryKey
    · subst registry
      simp [InsertionSet.insert_insert, Ne.symm (Keyspace.helperKey_ne_registryKey _ _)]
    · simp [list, registry]

/-- The sets after a removal. -/
theorem members_delete :
    (store.delete keyspace id paths).members place =
      if place = keyspace.registryKey then
        ((store.leaveSets keyspace id).members place).erase id
      else (store.leaveSets keyspace id).members place := by
  have withdrawn : ∀ key, (store.withdraw keyspace id paths).members key =
      (store.leaveSets keyspace id).members key := by
    intro key
    rw [withdraw_eq, members, sets_foldl_enterPosition]
    rfl
  show ((store.withdraw keyspace id paths).removeMember keyspace.registryKey id).members place = _
  rw [removeMember, members_setMembers, withdrawn, withdrawn]
  split
  · rename_i same
    rw [same]
  · rfl

/-! ## Part 2 — positions -/

/-- Positions of which those of a member are replaced: it goes to the end, or away. -/
def relocated (points : InsertionMap Bytes Point) (member : Bytes) :
    Option Point → InsertionMap Bytes Point
  | some point => (points.erase member).insert member point
  | none => points.erase member

/-- Of two replacements the second one counts. -/
theorem relocated_relocated (points : InsertionMap Bytes Point) (member : Bytes)
    (first second : Option Point) :
    relocated (relocated points member first) member second = relocated points member second := by
  have erased : (relocated points member first).erase member = points.erase member := by
    cases first with
    | none => exact InsertionMap.erase_erase points member
    | some point => exact (InsertionMap.erase_insert _ _ _).trans (InsertionMap.erase_erase _ _)
  cases second with
  | none => exact erased
  | some point => exact congrArg (·.insert member point) erased

theorem positionsAt_enterPosition (entry : PositionEntry) :
    (enterPosition keyspace id store entry).positionsAt place =
      if place = keyspace.geoKey entry.path then relocated (store.positionsAt place) id entry.point
      else store.positionsAt place := by
  unfold enterPosition
  dsimp only
  by_cases here : place = keyspace.geoKey entry.path
  · subst here
    cases point : entry.point <;> simp [setPosition, removePosition, relocated]
  · cases point : entry.point <;> simp [setPosition, removePosition, here]

/-- Of several entries for one key the last one decides. -/
theorem positionsAt_foldl_enterPosition (entries : List PositionEntry) :
    (entries.foldl (enterPosition keyspace id) store).positionsAt place =
      (entries.filter fun entry => place = keyspace.geoKey entry.path).getLast?.elim
        (store.positionsAt place) fun entry =>
          relocated (store.positionsAt place) id entry.point := by
  induction entries using List.reverseRecOn with
  | nil => rfl
  | append_singleton entries entry ih =>
    rw [List.foldl_append, List.foldl_cons, List.foldl_nil, positionsAt_enterPosition, ih,
      getLast?_filter_concat]
    by_cases here : place = keyspace.geoKey entry.path
    · rw [if_pos here, if_pos (decide_eq_true here), Option.elim_some]
      cases (entries.filter fun entry => place = keyspace.geoKey entry.path).getLast? with
      | none => rfl
      | some earlier => exact relocated_relocated _ _ _ _
    · rw [if_neg here, if_neg (mt of_decide_eq_true here)]

end Store

/-! ## Part 3 — whole updates -/

namespace Update

variable {store : Store} {update : Update} {place : Bytes}

/-- The members of a set when the entity has left it, if the update makes it leave. -/
def left (update : Update) (store : Store) (place : Bytes) : InsertionSet Bytes :=
  if (place = update.keyspace.registryKey ∧ update.write? = none) ∨
      place ∈ store.members (update.keyspace.helperKey update.id) then
    (store.members place).erase update.id
  else store.members place

/-- **Every set after an update**: the list of the entity is made anew, and the entity is at the end
of what it enters. -/
theorem members_apply (apart : update.keyspace.helperKey update.id ∉ update.indexKeys) :
    (update.apply store).members place =
      if place = update.keyspace.helperKey update.id then .ofList update.indexKeys
      else if place ∈ update.entered then (update.left store place).insert update.id
      else update.left store place := by
  cases update with
  | put write =>
    rw [apply, Store.members_put apart, left]
    simp only [keyspace, id, write?, entered, indexKeys, indexes, Store.members_leaveSets,
      Write.indexKeys]
    grind
  | delete keyspace id paths =>
    rw [apply, Store.members_delete, left, Store.members_leaveSets]
    have list : keyspace.helperKey id ≠ keyspace.registryKey := by simp
    simp only [Update.keyspace, Update.id, write?, entered, indexKeys, indexes, List.map_nil,
      List.not_mem_nil, if_false, and_true]
    by_cases registry : place = keyspace.registryKey
    · subst registry
      by_cases named : keyspace.registryKey ∈ store.members (keyspace.helperKey id) <;>
        simp [Ne.symm list, named, InsertionSet.erase_erase]
    · simp only [registry, if_false, false_or]
      rfl

/-- **All positions after an update**: the last entry for a key decides where the entity is. -/
theorem positionsAt_apply :
    (update.apply store).positionsAt place =
      (update.moves.filter fun entry => place = update.keyspace.geoKey entry.path).getLast?.elim
        (store.positionsAt place)
        fun entry => Store.relocated (store.positionsAt place) update.id entry.point := by
  have left : (store.leaveSets update.keyspace update.id).positionsAt place =
      store.positionsAt place := by
    rw [Store.positionsAt, Store.positions_leaveSets]
    rfl
  cases update with
  | put write =>
    have entered : (write.indexes.foldl (Store.enterSet write.keyspace write.id)
        (((store.leaveSets write.keyspace write.id).storeFields write.keyspace write.id
          write.record.fields).addMember write.keyspace.registryKey write.id)).positionsAt place =
          store.positionsAt place := by
      rw [Store.positionsAt, Store.positions_foldl_enterSet]
      show ((Store.storeFields _ _ _ _).positions.get? place).getD ∅ = _
      rw [Store.positions_storeFields, ← left]
      rfl
    rw [apply, Store.put, Store.positionsAt_foldl_enterPosition, entered]
    rfl
  | delete keyspace id paths =>
    show (store.withdraw keyspace id paths).positionsAt place = _
    rw [Store.withdraw_eq, Store.positionsAt_foldl_enterPosition,
      show (store.leaveSets keyspace id).positionsAt place = store.positionsAt place from left]
    rfl

theorem positionsAt_apply_of_ne
    (other : ∀ entry ∈ update.moves, place ≠ update.keyspace.geoKey entry.path) :
    (update.apply store).positionsAt place = store.positionsAt place := by
  have none : (update.moves.filter fun entry => place = update.keyspace.geoKey entry.path) = [] :=
    List.filter_eq_nil_iff.mpr fun entry listed same => other entry listed (of_decide_eq_true same)
  rw [positionsAt_apply, none]
  rfl

/-- No entry is at the key of the registry. -/
theorem registryKey_notMem_indexKeys (update : Update) :
    update.keyspace.registryKey ∉ update.indexKeys := by
  intro named
  obtain ⟨entry, _, same⟩ := List.mem_map.mp named
  exact Keyspace.indexKey_ne_registryKey _ _ _ same

end Update

/-- Updates may be left out, and removals of the same ids may take their place. -/
theorem Orderly.of_forall {keyspace : Keyspace} {history other : History}
    (orderly : Orderly keyspace history)
    (known : ∀ update ∈ other, update ∈ history ∨
      ∃ earlier ∈ history, ∃ paths, update = .delete keyspace earlier.id paths) :
    Orderly keyspace other where
  keyspace_eq update listed := by
    rcases known update listed with kept | ⟨earlier, _, paths, rfl⟩
    · exact orderly.keyspace_eq update kept
    · rfl
  apart key helper named := by
    obtain ⟨update, listed, rfl⟩ := List.mem_map.mp helper
    obtain ⟨writer, writing, entered⟩ := List.mem_flatMap.mp named
    refine orderly.apart _ ?_ (List.mem_flatMap.mpr ⟨writer, ?_, entered⟩)
    · rcases known update listed with kept | ⟨earlier, kept, paths, rfl⟩
      · exact List.mem_map.mpr ⟨update, kept, rfl⟩
      · refine List.mem_map.mpr ⟨earlier, kept, ?_⟩
        rw [orderly.keyspace_eq earlier kept]
        rfl
    · rcases known writer writing with kept | ⟨earlier, _, paths, rfl⟩
      · exact kept
      · cases entered

/-- The list of an id does not name the registry. -/
theorem Orderly.registryKey_notMem_list {keyspace : Keyspace} {history : History} {id : Bytes}
    (orderly : Orderly keyspace history)
    (apart : keyspace.helperKey id ∉ history.indexKeys) :
    keyspace.registryKey ∉ history.store.members (keyspace.helperKey id) := by
  rw [orderly.mem_helper_store id apart]
  rintro ⟨write, stands, named⟩
  have space : write.keyspace = keyspace :=
    orderly.keyspace_eq _ (History.mem_of_standing stands).1
  rw [← space] at named
  exact (Update.put write).registryKey_notMem_indexKeys named

/-- What a removal finds, unless the list of the entity names the registry. -/
theorem Store.removal_eq {store : Store} {keyspace : Keyspace} {id : Bytes} {paths : List String}
    (unlisted : keyspace.registryKey ∉ store.members (keyspace.helperKey id)) :
    store.removal keyspace id paths =
      ⟨id ∈ store.members keyspace.registryKey, store.fields.contains (keyspace.entityKey id)⟩ := by
  have members : (store.withdraw keyspace id paths).members keyspace.registryKey =
      store.members keyspace.registryKey := by
    rw [withdraw_eq, Store.members, sets_foldl_enterPosition]
    show (store.leaveSets keyspace id).members keyspace.registryKey = _
    rw [members_leaveSets, if_neg (Ne.symm (keyspace.helperKey_ne_registryKey id)),
      if_neg unlisted]
  have fields : (store.withdraw keyspace id paths).fields = store.fields := by
    rw [withdraw_eq, fields_foldl_enterPosition, fields_leaveSets]
  rw [removal]
  simp only [members, fields]

/-! ## Part 4 — stores that have the same at a key -/

/-- Two stores have the same at a key. -/
structure Store.SameAt (first second : Store) (key : Bytes) : Prop where
  members : first.members key = second.members key
  fields : first.fields.get? key = second.fields.get? key
  positions : first.positionsAt key = second.positionsAt key

/-- Two stores hold the same at a key, or both hold nothing there. -/
structure Store.EqualAt (first second : Store) (key : Bytes) : Prop where
  fields : first.fields.get? key = second.fields.get? key
  sets : first.sets.get? key = second.sets.get? key
  positions : first.positions.get? key = second.positions.get? key

namespace Store

variable {store first second : Store} {key place : Bytes}

theorem SameAt.trans {third : Store} (left : first.SameAt second key)
    (right : second.SameAt third key) : first.SameAt third key where
  members := left.members.trans right.members
  fields := left.fields.trans right.fields
  positions := left.positions.trans right.positions

theorem eq_of_equalAt (equal : ∀ key, first.EqualAt second key) : first = second :=
  Store.ext (ByteMap.ext_get? fun key => (equal key).fields)
    (ByteMap.ext_get? fun key => (equal key).sets)
    (ByteMap.ext_get? fun key => (equal key).positions)

namespace Tidy

/-- A tidy store holds a set exactly if it has members. -/
theorem get?_sets (tidy : store.Tidy) (key : Bytes) :
    store.sets.get? key =
      if (store.members key).isEmpty then none else some (store.members key) := by
  cases found : store.sets.get? key with
  | none =>
    rw [Store.members, found]
    rfl
  | some set =>
    have filled : set.isEmpty = false :=
      Bool.eq_false_iff.mpr fun empty => tidy.sets key set found (InsertionSet.isEmpty_iff.mp empty)
    rw [Store.members, found, Option.getD_some, filled, if_neg Bool.false_ne_true]

/-- A tidy store holds positions exactly if there are some. -/
theorem get?_positions (tidy : store.Tidy) (key : Bytes) :
    store.positions.get? key =
      if (store.positionsAt key).isEmpty then none else some (store.positionsAt key) := by
  cases found : store.positions.get? key with
  | none =>
    rw [Store.positionsAt, found]
    rfl
  | some points =>
    have filled : points.isEmpty = false := Bool.eq_false_iff.mpr fun empty =>
      tidy.positions key points found (InsertionMap.isEmpty_iff.mp empty)
    rw [Store.positionsAt, found, Option.getD_some, filled, if_neg Bool.false_ne_true]

/-- What tidy stores have at a key is what they hold there. -/
theorem equalAt (firstTidy : first.Tidy) (secondTidy : second.Tidy)
    (same : first.SameAt second key) : first.EqualAt second key where
  fields := same.fields
  sets := by rw [firstTidy.get?_sets, secondTidy.get?_sets, same.members]
  positions := by rw [firstTidy.get?_positions, secondTidy.get?_positions, same.positions]

/-- **Tidy stores that have the same at every key are equal.** -/
theorem eq_of_sameAt (firstTidy : first.Tidy) (secondTidy : second.Tidy)
    (same : ∀ key, first.SameAt second key) : first = second :=
  eq_of_equalAt fun key => firstTidy.equalAt secondTidy (same key)

end Tidy

end Store

namespace Update

variable {store first second : Store} {update : Update} {place : Bytes}

/-- **What an update leaves at a key follows from what was there**, and from the list of the entity.
-/
theorem sameAt_apply_congr (apart : update.keyspace.helperKey update.id ∉ update.indexKeys)
    (list : first.members (update.keyspace.helperKey update.id) =
      second.members (update.keyspace.helperKey update.id))
    (same : first.SameAt second place) :
    (update.apply first).SameAt (update.apply second) place where
  members := by rw [members_apply apart, members_apply apart, left, left, list, same.members]
  fields := by rw [get?_fields_apply, get?_fields_apply, same.fields]
  positions := by rw [positionsAt_apply, positionsAt_apply, same.positions]

/-- A key that an update does not name keeps what it had, unless the list of the entity names it. -/
theorem sameAt_apply (apart : update.keyspace.helperKey update.id ∉ update.indexKeys)
    (list : place ≠ update.keyspace.helperKey update.id)
    (registry : place ≠ update.keyspace.registryKey)
    (entered : place ∉ update.indexKeys)
    (unlisted : place ∉ store.members (update.keyspace.helperKey update.id))
    (fields : place ≠ update.keyspace.entityKey update.id)
    (positions : ∀ entry ∈ update.moves, place ≠ update.keyspace.geoKey entry.path) :
    (update.apply store).SameAt store place where
  members := by
    rw [members_apply apart, if_neg list, if_neg (mt (mem_entered_of_ne registry).mp entered), left,
      if_neg (not_or.mpr ⟨fun both => registry both.1, unlisted⟩)]
  fields := by rw [get?_fields_apply, if_neg fields]
  positions := positionsAt_apply_of_ne positions

end Update

end SecondaryIndex
