/-
**Several keyspaces in one store.**

All keys of a store are in one space, and a keyspace is a name that keys start with. Two keyspaces
have no key in common unless one name is the other, or the other and a colon begin it:

* `Keyspace.Apart.not_owns` — keyspaces that are apart own no key together;
* `Neighbourly` — the keyspaces of a history are apart, and no list of index keys stands at a key
  that some entry writes to;
* `Neighbourly.mem_members_inside` and `Neighbourly.get?_fields_inside` — at the keys of a keyspace,
  such a history leaves what the updates of that keyspace alone would leave;
* `Neighbourly.mem_members_store` and `Neighbourly.get?_fields_store` — which is what the standing
  writes of that keyspace say.
-/

import SecondaryIndex.Proofs.Store.History

namespace SecondaryIndex

/-! ## Part 1 — keys of a keyspace -/

namespace Keyspace

/-- The key is the registry of the keyspace, or starts with its name and a colon. -/
def Owns (keyspace : Keyspace) (key : Bytes) : Prop :=
  key = keyspace.registryKey ∨ ∃ rest, key = keyspace.keyStart ++ rest

/-- Neither name is the other one, nor do the other one and a colon begin it. -/
structure Apart (first second : Keyspace) : Prop where
  ne : first ≠ second
  left : ¬ first.keyStart <+: second.registryKey
  right : ¬ second.keyStart <+: first.registryKey

variable {first second : Keyspace} {key : Bytes}

theorem Apart.symm (apart : first.Apart second) : second.Apart first :=
  ⟨apart.ne.symm, apart.right, apart.left⟩

/-- Of two names that are continued by colons to begin one key, the one continues the other. -/
theorem Apart.not_keyStart_prefix (apart : first.Apart second) :
    ¬ first.keyStart <+: second.keyStart := by
  intro begins
  rcases List.prefix_concat_iff.mp begins with equal | shorter
  · exact apart.ne (registryKey_inj.mp (List.append_cancel_right equal))
  · exact apart.left shorter

/-- **Keyspaces that are apart own no key together.** -/
theorem Apart.not_owns (apart : first.Apart second) (owned : first.Owns key) :
    ¬ second.Owns key := by
  rcases owned with rfl | ⟨rest, rfl⟩
  · rintro (equal | ⟨other, equal⟩)
    · exact apart.ne (registryKey_inj.mp equal)
    · exact apart.right (equal ▸ List.prefix_append _ _)
  · rintro (equal | ⟨other, equal⟩)
    · exact apart.left (equal ▸ List.prefix_append _ _)
    · have firstBegins : first.keyStart <+: first.keyStart ++ rest := List.prefix_append _ _
      have secondBegins : second.keyStart <+: first.keyStart ++ rest :=
        equal ▸ List.prefix_append _ _
      rcases List.prefix_or_prefix_of_prefix firstBegins secondBegins with shorter | shorter
      · exact apart.not_keyStart_prefix shorter
      · exact apart.symm.not_keyStart_prefix shorter

theorem owns_entityKey (keyspace : Keyspace) (id : Bytes) : keyspace.Owns (keyspace.entityKey id) :=
  .inr ⟨_, rfl⟩

theorem owns_helperKey (keyspace : Keyspace) (id : Bytes) : keyspace.Owns (keyspace.helperKey id) :=
  .inr ⟨_, rfl⟩

theorem owns_indexKey (keyspace : Keyspace) (path : String) (value : Bytes) :
    keyspace.Owns (keyspace.indexKey path value) :=
  .inr ⟨_, rfl⟩

theorem owns_geoKey (keyspace : Keyspace) (path : String) : keyspace.Owns (keyspace.geoKey path) :=
  .inr ⟨_, rfl⟩

/-- Different names without a colon are apart. -/
theorem apart_of_colonFree (firstFree : ColonFree first.name) (secondFree : ColonFree second.name)
    (ne : first ≠ second) : first.Apart second where
  ne := ne
  left := fun ⟨rest, equal⟩ => registryKey_ne_keyStart secondFree rest equal.symm
  right := fun ⟨rest, equal⟩ => registryKey_ne_keyStart firstFree rest equal.symm

end Keyspace

/-! ## Part 2 — updates of a keyspace -/

namespace Update

variable {update : Update} {key : Bytes}

theorem owns_of_mem_indexKeys (listed : key ∈ update.indexKeys) : update.keyspace.Owns key := by
  obtain ⟨entry, _, rfl⟩ := List.mem_map.mp listed
  exact update.keyspace.owns_indexKey _ _

theorem owns_of_mem_entered (entered : key ∈ update.entered) : update.keyspace.Owns key := by
  by_cases registry : key = update.keyspace.registryKey
  · exact .inl registry
  · exact owns_of_mem_indexKeys ((mem_entered_of_ne registry).mp entered)

end Update

namespace History

variable {keyspace : Keyspace} {history : History} {update : Update}

/-- The updates of one keyspace. -/
def inside (keyspace : Keyspace) (history : History) : History :=
  history.filter fun update => update.keyspace = keyspace

theorem inside_append (keyspace : Keyspace) (first second : History) :
    inside keyspace (first ++ second) = inside keyspace first ++ inside keyspace second :=
  List.filter_append _ _

theorem mem_inside : update ∈ inside keyspace history ↔ update ∈ history ∧
    update.keyspace = keyspace := by
  rw [inside, List.mem_filter, decide_eq_true_iff]

theorem inside_concat (keyspace : Keyspace) (history : History) (update : Update) :
    inside keyspace (history ++ [update]) =
      if update.keyspace = keyspace then inside keyspace history ++ [update]
      else inside keyspace history := by
  rw [inside_append]
  by_cases own : update.keyspace = keyspace <;> simp [inside, own]

/-- A standing write of a keyspace is in it, under its id. -/
theorem of_standing_inside {id : Bytes} {write : Write}
    (stands : (inside keyspace history).standing id = some write) :
    .put write ∈ history ∧ write.id = id ∧ write.keyspace = keyspace := by
  obtain ⟨listed, same⟩ := mem_of_standing stands
  obtain ⟨member, own⟩ := mem_inside.mp listed
  exact ⟨member, same, own⟩

end History

/-! ## Part 3 — histories of several keyspaces -/

/-- All updates are of the keyspace, or of others that are apart from it and from each other, and no
list of index keys stands at a key that some entry writes to. -/
structure Neighbourly (keyspace : Keyspace) (history : History) : Prop where
  own : ∀ update ∈ history, update.keyspace = keyspace ∨ update.keyspace.Apart keyspace
  others : ∀ first ∈ history, ∀ second ∈ history,
    first.keyspace = second.keyspace ∨ first.keyspace.Apart second.keyspace
  lists : ∀ key ∈ history.helperKeys, key ∉ history.indexKeys

namespace Neighbourly

variable {keyspace : Keyspace} {history earlier later : History} {update : Update}
  {id other place : Bytes}

/-- A history of one keyspace has no neighbours. -/
theorem of_orderly (orderly : Orderly keyspace history) : Neighbourly keyspace history where
  own update listed := .inl (orderly.keyspace_eq update listed)
  others first firstListed second secondListed := .inl
    ((orderly.keyspace_eq first firstListed).trans (orderly.keyspace_eq second secondListed).symm)
  lists := orderly.apart

/-- Keyspaces whose names have no colon are neighbours. -/
theorem of_colonFree (free : ColonFree keyspace.name)
    (colonFree : ∀ update ∈ history, ColonFree update.keyspace.name)
    (lists : ∀ key ∈ history.helperKeys, key ∉ history.indexKeys) :
    Neighbourly keyspace history where
  own update listed := or_iff_not_imp_left.mpr
    (Keyspace.apart_of_colonFree (colonFree update listed) free)
  others first firstListed second secondListed := or_iff_not_imp_left.mpr
    (Keyspace.apart_of_colonFree (colonFree first firstListed) (colonFree second secondListed))
  lists := lists

theorem left (neighbourly : Neighbourly keyspace (earlier ++ later)) :
    Neighbourly keyspace earlier where
  own update listed := neighbourly.own update (List.mem_append_left _ listed)
  others first firstListed second secondListed := neighbourly.others
    first (List.mem_append_left _ firstListed) second (List.mem_append_left _ secondListed)
  lists key helper indexed := by
    refine neighbourly.lists key ?_ ?_
    · rw [History.helperKeys, List.map_append]
      exact List.mem_append_left _ helper
    · rw [History.indexKeys, List.flatMap_append]
      exact List.mem_append_left _ indexed

/-- The keyspace of the last update has the same neighbours. -/
theorem of_last (neighbourly : Neighbourly keyspace (history ++ [update])) :
    Neighbourly update.keyspace history where
  own earlier listed := neighbourly.others earlier (List.mem_append_left _ listed) update
    (List.mem_append_right _ List.mem_cons_self)
  others := neighbourly.left.others
  lists := neighbourly.left.lists

/-- The updates of the keyspace alone are a history of one keyspace. -/
theorem orderly_inside (neighbourly : Neighbourly keyspace history) :
    Orderly keyspace (history.inside keyspace) where
  keyspace_eq update listed := (History.mem_inside.mp listed).2
  apart key helper indexed := by
    obtain ⟨update, listed, rfl⟩ := List.mem_map.mp helper
    obtain ⟨writer, writing, named⟩ := List.mem_flatMap.mp indexed
    exact neighbourly.lists _
      (List.mem_map.mpr ⟨update, (History.mem_inside.mp listed).1, rfl⟩)
      (List.mem_flatMap.mpr ⟨writer, (History.mem_inside.mp writing).1, named⟩)

/-- The list of an id that was updated is at no key of an index set. -/
theorem helperKey_notMem_indexKeys (neighbourly : Neighbourly keyspace (history ++ [update])) :
    update.keyspace.helperKey update.id ∉ (history.inside update.keyspace).indexKeys := by
  intro indexed
  obtain ⟨writer, writing, named⟩ := List.mem_flatMap.mp indexed
  refine neighbourly.lists (update.keyspace.helperKey update.id) ?_ ?_
  · exact List.mem_map.mpr ⟨update, List.mem_append_right _ List.mem_cons_self, rfl⟩
  · exact List.mem_flatMap.mpr
      ⟨writer, List.mem_append_left _ (History.mem_inside.mp writing).1, named⟩

/-- **Sets of a keyspace** are those after its own updates. -/
theorem mem_members_inside (neighbourly : Neighbourly keyspace history)
    (owned : keyspace.Owns place) :
    other ∈ history.store.members place ↔
      other ∈ (history.inside keyspace).store.members place := by
  induction history using List.reverseRecOn generalizing keyspace place other with
  | nil => rfl
  | append_singleton history update ih =>
    have earlier : ∀ {place other : Bytes}, update.keyspace.Owns place →
        (other ∈ (History.store history).members place ↔
          other ∈ ((History.inside update.keyspace history).store).members place) :=
      ih neighbourly.of_last
    rw [History.inside_concat]
    rcases neighbourly.own update (List.mem_append_right _ List.mem_cons_self) with rfl | apart
    · rw [if_pos rfl, History.store_concat, History.store_concat, Update.mem_members_apply,
        Update.mem_members_apply, earlier owned, earlier (update.keyspace.owns_helperKey update.id)]
    · -- the list of the other keyspace names sets of that keyspace only
      have listed : place ∉
          (History.store history).members (update.keyspace.helperKey update.id) := by
        rw [earlier (update.keyspace.owns_helperKey update.id),
          neighbourly.of_last.orderly_inside.mem_helper_store _
            neighbourly.helperKey_notMem_indexKeys]
        rintro ⟨write, stands, named⟩
        obtain ⟨_, _, same⟩ := History.of_standing_inside stands
        have writes : write.keyspace.Owns place := (Update.put write).owns_of_mem_indexKeys named
        exact apart.not_owns (same ▸ writes) owned
      have entered : place ∉ update.entered :=
        fun entered => apart.not_owns (Update.owns_of_mem_entered entered) owned
      have helper : place ≠ update.keyspace.helperKey update.id :=
        fun equal => apart.not_owns (equal ▸ update.keyspace.owns_helperKey _) owned
      have registry : place ≠ update.keyspace.registryKey :=
        fun equal => apart.not_owns (.inl equal) owned
      rw [if_neg apart.ne, History.store_concat, Update.mem_members_apply,
        ← ih neighbourly.left owned]
      simp [entered, helper, registry, listed]

/-- **Fields of a keyspace** are those after its own updates. -/
theorem get?_fields_inside (neighbourly : Neighbourly keyspace history)
    (owned : keyspace.Owns place) :
    history.store.fields.get? place = (history.inside keyspace).store.fields.get? place := by
  induction history using List.reverseRecOn with
  | nil => rfl
  | append_singleton history update ih =>
    rw [History.inside_concat, History.store_concat, Update.get?_fields_apply]
    rcases neighbourly.own update (List.mem_append_right _ List.mem_cons_self) with rfl | apart
    · rw [if_pos rfl, History.store_concat, Update.get?_fields_apply, ih neighbourly.left]
    · have entity : place ≠ update.keyspace.entityKey update.id :=
        fun equal => apart.not_owns (equal ▸ update.keyspace.owns_entityKey _) owned
      rw [if_neg entity, if_neg apart.ne, ih neighbourly.left]

/-- Fields are those of the standing write of the keyspace. -/
theorem get?_fields_store (neighbourly : Neighbourly keyspace history) :
    history.store.fields.get? (keyspace.entityKey id) =
      ((history.inside keyspace).standing id).bind Write.stored? := by
  rw [neighbourly.get?_fields_inside (keyspace.owns_entityKey id)]
  exact neighbourly.orderly_inside.get?_fields_store

/-- An index set that no list is kept at holds the ids whose standing write in the keyspace enters
it. -/
theorem mem_members_store (neighbourly : Neighbourly keyspace history) (owned : keyspace.Owns place)
    (unregistered : place ≠ keyspace.registryKey) (free : place ∉ history.helperKeys) :
    id ∈ history.store.members place ↔
      ∃ write, (history.inside keyspace).standing id = some write ∧ place ∈ write.indexKeys := by
  rw [neighbourly.mem_members_inside owned]
  refine neighbourly.orderly_inside.mem_members_store unregistered fun helper => free ?_
  obtain ⟨update, listed, rfl⟩ := List.mem_map.mp helper
  exact List.mem_map.mpr ⟨update, (History.mem_inside.mp listed).1, rfl⟩

end Neighbourly

end SecondaryIndex
