/-
**An entity that is written again, or removed, leaves nothing of what it was.**

A write takes the entity out of the sets that it was in and puts it at the end of those that it
enters. So where it was in between, or whether it was there at all, cannot be told from the store,
not even from the order of the members:

* `Update.apply_apply` — an update that overwrites another one leaves the store as it would alone;
* `Store.delete_of_absent` — removing what is not there changes nothing;
* `put_leaves_no_trace` — both, after any history whose updates settle the same paths, and so a new
  entity that is removed again leaves the store as it was.
-/

import SecondaryIndex.Proofs.Store.Consistency
import SecondaryIndex.Proofs.Store.Order

namespace SecondaryIndex

/-! ## Part 1 — two updates of one entity -/

/-- The earlier update writes the entity of the later one, which settles all its paths. -/
structure Update.Overwrites (later earlier : Update) : Prop where
  keyspace : earlier.keyspace = later.keyspace
  id : earlier.id = later.id
  writes : earlier.write?.isSome
  paths : ∀ path ∈ earlier.paths, path ∈ later.paths

namespace Update

variable {store : Store} {earlier later : Update} {place : Bytes}

@[simp] theorem paths_delete (keyspace : Keyspace) (id : Bytes) (paths : List String) :
    (delete keyspace id paths).paths = paths := by
  simp [Update.paths, moves, Function.comp_def]

theorem Overwrites.helperKey_eq (overwrites : later.Overwrites earlier) :
    earlier.keyspace.helperKey earlier.id = later.keyspace.helperKey later.id := by
  rw [overwrites.keyspace, overwrites.id]

/-- In an index set the entity ends up where the later update would leave it: the earlier one enters
only sets that the later one leaves first. -/
theorem Overwrites.left_apply (overwrites : later.Overwrites earlier)
    (apart : earlier.keyspace.helperKey earlier.id ∉ earlier.indexKeys)
    (listed : ∀ key ∈ earlier.indexKeys, later.id ∈ store.members key →
      key ∈ store.members (later.keyspace.helperKey later.id))
    (list : place ≠ later.keyspace.helperKey later.id)
    (registry : place ≠ later.keyspace.registryKey) :
    later.left (earlier.apply store) place = later.left store place := by
  have entered : place ∈ earlier.entered ↔ place ∈ earlier.indexKeys :=
    mem_entered_of_ne (overwrites.keyspace ▸ registry)
  have listAfter : place ∈ (earlier.apply store).members (later.keyspace.helperKey later.id) ↔
      place ∈ earlier.indexKeys := by
    rw [members_apply apart, if_pos overwrites.helperKey_eq.symm, InsertionSet.mem_ofList]
  have before : earlier.left store place = later.left store place := by
    rw [left, left, overwrites.helperKey_eq, overwrites.id, overwrites.keyspace]
    simp [registry]
  have here : (earlier.apply store).members place =
      if place ∈ earlier.indexKeys then (later.left store place).insert later.id
      else later.left store place := by
    rw [members_apply apart, overwrites.helperKey_eq, if_neg list, before, overwrites.id]
    simp only [entered]
  by_cases named : place ∈ earlier.indexKeys
  · -- either the entity has left the set already, or it was never in it
    have gone : ¬ later.id ∈ later.left store place := by
      rw [left]
      split
      · simp
      · rename_i kept
        exact fun member => kept (.inr (listed place named member))
    rw [left, if_pos (.inr (listAfter.mpr named)), here, if_pos named, InsertionSet.erase_insert,
      InsertionSet.erase_of_not_mem gone]
  · rw [left, if_neg (not_or.mpr ⟨fun both => registry both.1, mt listAfter.mp named⟩), here,
      if_neg named]

/-- The registry has the entity where the later update would leave it. -/
theorem Overwrites.members_registry (overwrites : later.Overwrites earlier)
    (apart : earlier.keyspace.helperKey earlier.id ∉ earlier.indexKeys)
    (apartLater : later.keyspace.helperKey later.id ∉ later.indexKeys)
    (unlisted : later.keyspace.registryKey ∉
      store.members (later.keyspace.helperKey later.id)) :
    (later.apply (earlier.apply store)).members later.keyspace.registryKey =
      (later.apply store).members later.keyspace.registryKey := by
  have list := Ne.symm (later.keyspace.helperKey_ne_registryKey later.id)
  have unlistedAfter : later.keyspace.registryKey ∉
      (earlier.apply store).members (later.keyspace.helperKey later.id) := by
    rw [members_apply apart, if_pos overwrites.helperKey_eq.symm, InsertionSet.mem_ofList,
      ← overwrites.keyspace]
    exact earlier.registryKey_notMem_indexKeys
  have written : (earlier.apply store).members later.keyspace.registryKey =
      (store.members later.keyspace.registryKey).insert later.id := by
    have entered : later.keyspace.registryKey ∈ earlier.entered :=
      overwrites.keyspace ▸ registryKey_mem_entered.mpr overwrites.writes
    have stays : earlier.write? ≠ none := Option.isSome_iff_ne_none.mp overwrites.writes
    rw [members_apply apart, overwrites.helperKey_eq, if_neg list, if_pos entered, left,
      overwrites.helperKey_eq, overwrites.id]
    simp [stays, unlisted]
  rw [members_apply apartLater, members_apply apartLater, if_neg list, if_neg list]
  cases final : later.write? with
  | none =>
    have out : later.keyspace.registryKey ∉ later.entered := by
      rw [registryKey_mem_entered, final]
      exact Bool.false_ne_true
    rw [if_neg out, if_neg out, left, left, if_pos (.inl ⟨rfl, final⟩), if_pos (.inl ⟨rfl, final⟩),
      written, InsertionSet.erase_insert]
  | some write =>
    have entered : later.keyspace.registryKey ∈ later.entered := by
      rw [registryKey_mem_entered, final]
      rfl
    have stays : ¬ (later.keyspace.registryKey = later.keyspace.registryKey ∧
        later.write? = none) := by
      rw [final]
      exact fun both => Option.some_ne_none _ both.2
    rw [if_pos entered, if_pos entered, left, left, if_neg (not_or.mpr ⟨stays, unlistedAfter⟩),
      if_neg (not_or.mpr ⟨stays, unlisted⟩), written, InsertionSet.insert_insert]

/-- Positions are where the later update would leave them. -/
theorem Overwrites.positionsAt_eq (overwrites : later.Overwrites earlier) :
    (later.apply (earlier.apply store)).positionsAt place =
      (later.apply store).positionsAt place := by
  have twice := @positionsAt_apply (earlier.apply store) later place
  have once := @positionsAt_apply store later place
  cases settled : (later.moves.filter fun entry =>
      place = later.keyspace.geoKey entry.path).getLast? with
  | some entry =>
    rw [settled, Option.elim_some] at twice once
    rw [twice, once, positionsAt_apply, overwrites.id]
    cases (earlier.moves.filter fun entry =>
        place = earlier.keyspace.geoKey entry.path).getLast? with
    | none => rfl
    | some before => exact Store.relocated_relocated _ _ _ _
  | none =>
    rw [settled, Option.elim_none] at twice once
    rw [twice, once]
    -- what the later update does not settle, the earlier one does not settle either
    refine positionsAt_apply_of_ne fun entry listed same => ?_
    have path : entry.path ∈ later.paths :=
      overwrites.paths _ (List.mem_map.mpr ⟨entry, listed, rfl⟩)
    obtain ⟨other, member, samePath⟩ := List.mem_map.mp path
    refine List.filter_eq_nil_iff.mp (List.getLast?_eq_none_iff.mp settled) other member ?_
    rw [decide_eq_true_iff, samePath, same, overwrites.keyspace]

/-- **An update that overwrites another one leaves the store as it would alone**, if the list of the
entity names every set that it is in. -/
theorem apply_apply (overwrites : later.Overwrites earlier) (tidy : store.Tidy)
    (apart : earlier.keyspace.helperKey earlier.id ∉ earlier.indexKeys)
    (apartLater : later.keyspace.helperKey later.id ∉ later.indexKeys)
    (listed : ∀ key ∈ earlier.indexKeys, later.id ∈ store.members key →
      key ∈ store.members (later.keyspace.helperKey later.id))
    (unlisted : later.keyspace.registryKey ∉
      store.members (later.keyspace.helperKey later.id)) :
    later.apply (earlier.apply store) = later.apply store := by
  refine (tidy_apply (tidy_apply tidy)).eq_of_sameAt (tidy_apply tidy) fun place => ?_
  constructor
  · by_cases registry : place = later.keyspace.registryKey
    · rw [registry, overwrites.members_registry apart apartLater unlisted]
    · rw [members_apply apartLater, members_apply apartLater]
      split
      · rfl
      · rename_i list
        rw [overwrites.left_apply apart listed list registry]
  · rw [get?_fields_apply, get?_fields_apply, get?_fields_apply, overwrites.keyspace, overwrites.id]
    split <;> rfl
  · exact overwrites.positionsAt_eq

end Update

/-! ## Part 2 — removing what is not there -/

/-- **Removing what is not there changes nothing**, and it is reported missing. -/
theorem Store.delete_of_absent {store : Store} {keyspace : Keyspace} {id : Bytes}
    {paths : List String} (tidy : store.Tidy)
    (unlisted : ∀ key, ¬ key ∈ store.members (keyspace.helperKey id))
    (unregistered : ¬ id ∈ store.members keyspace.registryKey)
    (bare : store.fields.get? (keyspace.entityKey id) = none)
    (nowhere : ∀ place, store.position? place id = none) :
    store.delete keyspace id paths = store ∧
      (store.removal keyspace id paths).status = .missing := by
  constructor
  · refine (tidy.delete keyspace id paths).eq_of_sameAt tidy fun place => ?_
    constructor
    · rw [members_delete, members_leaveSets]
      by_cases list : place = keyspace.helperKey id
      · have none : store.members place = ∅ := by
          rw [list]
          exact InsertionSet.ext (List.eq_nil_iff_forall_not_mem.mpr unlisted)
        rw [none, list, if_neg (keyspace.helperKey_ne_registryKey id), if_pos rfl]
      · rw [if_neg list, if_neg (unlisted place)]
        split
        · rename_i registry
          exact InsertionSet.erase_of_not_mem (registry ▸ unregistered)
        · rfl
    · rw [get?_fields_delete]
      split
      · rename_i own
        rw [own, bare]
      · rfl
    · refine (@Update.positionsAt_apply store (.delete keyspace id paths) place).trans ?_
      cases settled : ((Update.delete keyspace id paths).moves.filter fun entry =>
          place = (Update.delete keyspace id paths).keyspace.geoKey entry.path).getLast? with
      | none => rfl
      | some entry =>
        obtain ⟨listed, _⟩ := List.mem_filter.mp (List.mem_of_getLast? settled)
        obtain ⟨path, _, rfl⟩ := List.mem_map.mp listed
        exact InsertionMap.erase_of_get?_eq_none (nowhere place)
  · rw [removal_eq (unlisted _)]
    simp [Removal.status, unregistered, ByteMap.contains, bare]

/-! ## Part 3 — after a history -/

/-- All updates settle the same paths, in any order and any number of times. -/
structure Uniform (paths : List String) (history : History) : Prop where
  listed : ∀ update ∈ history, ∀ path ∈ update.paths, path ∈ paths
  settled : ∀ update ∈ history, ∀ path ∈ paths, path ∈ update.paths

section Histories

variable {keyspace : Keyspace} {history : History} {update : Update} {paths : List String}
  {id place : Bytes} {first second : Write}

theorem Uniform.init (uniform : Uniform paths (history ++ [update])) : Uniform paths history where
  listed earlier member := uniform.listed earlier (List.mem_append_left _ member)
  settled earlier member := uniform.settled earlier (List.mem_append_left _ member)

/-- An update moves an entity at the keys of its paths only. -/
theorem Uniform.position?_apply_of_ne (uniform : Uniform paths (history ++ [update]))
    (orderly : Orderly keyspace (history ++ [update]))
    (other : ∀ path ∈ paths, place ≠ keyspace.geoKey path) (store : Store) :
    (update.apply store).position? place id = store.position? place id := by
  have last : update ∈ history ++ [update] := List.mem_append_right _ List.mem_cons_self
  rw [Store.position?, Store.position?, Update.positionsAt_apply_of_ne]
  intro entry listed
  rw [orderly.last_keyspace]
  exact other _ (uniform.listed update last _ (List.mem_map.mpr ⟨entry, listed, rfl⟩))

/-- An update that removes an entity takes it away from the keys of all paths. -/
theorem Uniform.position?_apply_of_removed (uniform : Uniform paths (history ++ [update]))
    (orderly : Orderly keyspace (history ++ [update])) (removed : update.write? = none)
    {path : String} (listed : path ∈ paths) (store : Store) :
    (update.apply store).position? (keyspace.geoKey path) update.id = none := by
  have last : update ∈ history ++ [update] := List.mem_append_right _ List.mem_cons_self
  obtain ⟨entry, member, rfl⟩ := List.mem_map.mp (uniform.settled update last path listed)
  have found : entry ∈ update.moves.filter fun other =>
      keyspace.geoKey entry.path = keyspace.geoKey other.path :=
    List.mem_filter.mpr ⟨member, decide_eq_true rfl⟩
  rw [Update.position?_apply, if_pos rfl, orderly.last_keyspace]
  cases settled : (update.moves.filter fun other =>
      keyspace.geoKey entry.path = keyspace.geoKey other.path).getLast? with
  | none =>
    rw [List.getLast?_eq_none_iff.mp settled] at found
    cases found
  | some final =>
    cases update with
    | put write => cases removed
    | delete keyspace id paths =>
      obtain ⟨among, _⟩ := List.mem_filter.mp (List.mem_of_getLast? settled)
      obtain ⟨_, _, rfl⟩ := List.mem_map.mp among
      rfl

/-- At a key of no path there are no positions. -/
theorem Uniform.position?_store_of_ne (uniform : Uniform paths history)
    (orderly : Orderly keyspace history) (other : ∀ path ∈ paths, place ≠ keyspace.geoKey path) :
    history.store.position? place id = none := by
  induction history using List.reverseRecOn with
  | nil => rfl
  | append_singleton history update ih =>
    rw [History.store_concat, uniform.position?_apply_of_ne orderly other]
    exact ih uniform.init orderly.init

/-- **An id without a standing write is at no position.** -/
theorem Uniform.position?_store_eq_none (uniform : Uniform paths history)
    (orderly : Orderly keyspace history) (absent : history.standing id = none) :
    history.store.position? place id = none := by
  by_cases other : ∀ path ∈ paths, place ≠ keyspace.geoKey path
  · exact uniform.position?_store_of_ne orderly other
  · push Not at other
    obtain ⟨path, listed, rfl⟩ := other
    induction history using List.reverseRecOn with
    | nil => rfl
    | append_singleton history update ih =>
      rw [History.standing_concat] at absent
      rw [History.store_concat]
      by_cases own : update.id = id
      · rw [if_pos own] at absent
        exact own ▸ uniform.position?_apply_of_removed orderly absent listed _
      · rw [if_neg own] at absent
        rw [Update.position?_apply, if_neg (Ne.symm own)]
        exact ih uniform.init orderly.init absent

namespace Orderly

/-- The list of an id names the index sets that it is in. -/
theorem mem_list_of_mem_members (orderly : Orderly keyspace history)
    (apart : keyspace.helperKey id ∉ history.indexKeys)
    (unregistered : place ≠ keyspace.registryKey) (free : place ∉ history.helperKeys)
    (member : id ∈ history.store.members place) :
    place ∈ history.store.members (keyspace.helperKey id) :=
  (orderly.mem_helper_store id apart place).mpr
    ((orderly.mem_members_store unregistered free).mp member)

/-- **After a further write of an entity, any update of it leaves the store as it would without that
write**, if it settles the same paths. -/
theorem apply_put (orderly : Orderly keyspace (history ++ [.put first, update]))
    (same : update.id = first.id)
    (settled : ∀ path ∈ (Update.put first).paths, path ∈ update.paths) :
    update.apply ((Update.put first).apply history.store) = update.apply history.store := by
  have firstListed : Update.put first ∈ history ++ [.put first, update] := by simp
  have listed : update ∈ history ++ [.put first, update] := by simp
  have apart := orderly.helperKey_notMem_indexKeys listed
  have earlier : Orderly keyspace history :=
    orderly.of_forall fun update listed => .inl (List.mem_append_left _ listed)
  have firstSpace : first.keyspace = keyspace := orderly.keyspace_eq _ firstListed
  have space : update.keyspace = keyspace := orderly.keyspace_eq _ listed
  have indexKeys : History.indexKeys (history ++ [.put first, update]) =
      history.indexKeys ++ (first.indexKeys ++ update.indexKeys) := by
    simp [History.indexKeys, Update.indexKeys, Update.indexes, Update.keyspace, Write.indexKeys]
  have helperKeys : ∀ key ∈ history.helperKeys,
      key ∈ History.helperKeys (history ++ [.put first, update]) := by
    intro key member
    rw [History.helperKeys, List.map_append]
    exact List.mem_append_left _ member
  rw [indexKeys, List.mem_append, List.mem_append, not_or, not_or] at apart
  have overwrites : update.Overwrites (.put first) :=
    ⟨firstSpace.trans space.symm, same.symm, rfl, settled⟩
  refine Update.apply_apply overwrites (History.tidy_store history) ?_ ?_ ?_ ?_
  · rw [overwrites.helperKey_eq, space]
    exact apart.2.1
  · rw [space]
    exact apart.2.2
  · intro key named member
    rw [space]
    refine earlier.mem_list_of_mem_members apart.1 ?_ ?_ member
    · rintro rfl
      rw [← firstSpace] at named
      exact (Update.put first).registryKey_notMem_indexKeys named
    · refine fun helper => orderly.apart key (helperKeys key helper) ?_
      rw [indexKeys]
      exact List.mem_append_right _ (List.mem_append_left _ named)
  · rw [space]
    exact earlier.registryKey_notMem_list apart.1

/-- **Removing what is not stored changes nothing.** -/
theorem delete_of_notMem (orderly : Orderly keyspace (history ++ [.delete keyspace id paths]))
    (uniform : Uniform paths history)
    (absent : ¬ id ∈ history.store.members keyspace.registryKey) :
    history.store.delete keyspace id paths = history.store ∧
      (history.store.removal keyspace id paths).status = .missing := by
  have earlier := orderly.init
  have apart : keyspace.helperKey id ∉ history.indexKeys := by
    have last : Update.delete keyspace id paths ∈ history ++ [.delete keyspace id paths] := by simp
    have apart := orderly.helperKey_notMem_indexKeys last
    rw [History.indexKeys, List.flatMap_append, List.mem_append, not_or] at apart
    exact apart.1
  have unwritten : history.standing id = none := by
    rw [earlier.mem_registry_store, Bool.not_eq_true, Option.isSome_eq_false_iff,
      Option.isNone_iff_eq_none] at absent
    exact absent
  refine Store.delete_of_absent (History.tidy_store history) ?_ absent ?_ ?_
  · intro key named
    obtain ⟨write, stands, _⟩ := (earlier.mem_helper_store id apart key).mp named
    rw [unwritten] at stands
    cases stands
  · rw [earlier.get?_fields_store, unwritten]
    rfl
  · exact fun place => uniform.position?_store_eq_none earlier unwritten

end Orderly

/-- **A write leaves no trace** where the entity is written again, or removed with all its paths,
after any history of one keyspace. A removal of what is not stored changes nothing either, and so a
new entity that is removed again leaves the store as it was. -/
theorem put_leaves_no_trace (keyspace : Keyspace) (paths : List String) (history : History) :
    (∀ first second : Write,
      Orderly keyspace (history ++ [.put first, .put second]) →
      Uniform paths (history ++ [.put first, .put second]) → first.id = second.id →
        (history.store.put first).put second = history.store.put second ∧
        (history.store.put first).delete keyspace first.id paths =
          history.store.delete keyspace first.id paths ∧
        (¬ first.id ∈ history.store.members keyspace.registryKey →
          (history.store.put first).delete keyspace first.id paths = history.store)) ∧
    ∀ id : Bytes,
      Orderly keyspace (history ++ [.delete keyspace id paths]) → Uniform paths history →
      ¬ id ∈ history.store.members keyspace.registryKey →
        history.store.delete keyspace id paths = history.store ∧
        (history.store.removal keyspace id paths).status = .missing := by
  refine ⟨fun first second orderly uniform same => ?_,
    fun id orderly uniform absent => orderly.delete_of_notMem uniform absent⟩
  have firstListed : Update.put first ∈ history ++ [.put first, .put second] := by simp
  have secondListed : Update.put second ∈ history ++ [.put first, .put second] := by simp
  have known : ∀ update ∈ history ++ [.put first, .delete keyspace first.id paths],
      update ∈ history ++ [.put first, .put second] ∨
        ∃ earlier ∈ history ++ [.put first, .put second],
          ∃ paths, update = .delete keyspace earlier.id paths := by
    intro update listed
    rw [List.mem_append, List.mem_cons, List.mem_singleton] at listed
    rcases listed with early | rfl | rfl
    · exact .inl (List.mem_append_left _ early)
    · exact .inl firstListed
    · exact .inr ⟨_, firstListed, paths, rfl⟩
  have removing := orderly.of_forall known
  have removed : (history.store.put first).delete keyspace first.id paths =
      history.store.delete keyspace first.id paths := by
    refine removing.apply_put rfl fun path listed => ?_
    rw [Update.paths_delete]
    exact uniform.listed _ firstListed path listed
  refine ⟨orderly.apply_put same.symm fun path listed => ?_, removed, fun absent => ?_⟩
  · exact uniform.settled _ secondListed path (uniform.listed _ firstListed path listed)
  · have alone : Orderly keyspace (history ++ [.delete keyspace first.id paths]) :=
      removing.of_forall fun update listed => .inl (by grind)
    have before : Uniform paths history :=
      ⟨fun update listed => uniform.listed update (List.mem_append_left _ listed),
        fun update listed => uniform.settled update (List.mem_append_left _ listed)⟩
    rw [removed]
    exact (alone.delete_of_notMem before absent).1

/-- The third person, who comes to Tear. -/
def inTear : Write :=
  .ofTexts "persons" "3" [("city", "\"Tear\"")] [("city", "Tear"), ("tag", "Tear")]
    [("location", some ⟨1.0, 2.0⟩)]

/-- The third person, who lives in Caemlyn. -/
def inCaemlyn : Write :=
  .ofTexts "persons" "3" [] [("city", "Caemlyn"), ("city", "Tear")] [("location", none)]

theorem put_leaves_no_trace_moving :
    Orderly ⟨"persons"⟩ (moving ++ [.put inTear, .put inCaemlyn]) ∧
      Uniform ["location"] (moving ++ [.put inTear, .put inCaemlyn]) ∧
      ¬ inTear.id ∈ moving.store.members (Keyspace.registryKey ⟨"persons"⟩) ∧
      (moving.store.put inTear).put inCaemlyn = moving.store.put inCaemlyn ∧
      (moving.store.put inTear).delete ⟨"persons"⟩ inTear.id ["location"] = moving.store ∧
      moving.store.delete ⟨"persons"⟩ (Bytes.ofString "1") ["location"] = moving.store := by
  have orderly : Orderly ⟨"persons"⟩ (moving ++ [.put inTear, .put inCaemlyn]) :=
    ⟨by decide, by decide⟩
  have uniform : Uniform ["location"] (moving ++ [.put inTear, .put inCaemlyn]) :=
    ⟨by decide, by decide⟩
  have unknown : ¬ inTear.id ∈ moving.store.members (Keyspace.registryKey ⟨"persons"⟩) := by
    decide +kernel
  -- the first person was removed before, and may be removed again
  have again : Orderly ⟨"persons"⟩
      (moving ++ [.delete ⟨"persons"⟩ (Bytes.ofString "1") ["location"]]) := ⟨by decide, by decide⟩
  have before : Uniform ["location"] moving := ⟨by decide, by decide⟩
  obtain ⟨writes, removals⟩ := put_leaves_no_trace ⟨"persons"⟩ ["location"] moving
  obtain ⟨overwritten, _, restored⟩ := writes inTear inCaemlyn orderly uniform rfl
  exact ⟨orderly, uniform, unknown, overwritten, restored unknown,
    (removals _ again before (by decide +kernel)).1⟩

end Histories

end SecondaryIndex
