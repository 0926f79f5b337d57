/-
**When an update leaves every other entity as it was.**

The list of index keys of an id is a set like any other, at the key that ends in `:idx`. If that is
the key of an index set as well, an update takes the members of that set for keys, and drops it.

* `Isolated` — no other entity, of this keyspace or of another, is seen to change;
* `Undisturbed` — where the list of the id is at the key of an index set, the set has no members
  that the update would drop, add or take for keys of another keyspace;
* `isolated_iff` — after any history over any keyspaces, an update is isolated exactly if it finds
  the store undisturbed;
* `not_isolated_cityOfIdx` — two writes of one keyspace that do not get along.
-/

import SecondaryIndex.Proofs.Store.Consistency

namespace SecondaryIndex

/-- Two stores show the same of an entity: its fields, its registration, its membership in the index
sets of declared paths, and its positions. -/
structure SameEntity (declared : String → Prop) (keyspace : Keyspace) (id : Bytes)
    (first second : Store) : Prop where
  fields : first.fields.get? (keyspace.entityKey id) = second.fields.get? (keyspace.entityKey id)
  registered : id ∈ first.members keyspace.registryKey ↔ id ∈ second.members keyspace.registryKey
  indexed : ∀ path value, declared path →
    (id ∈ first.members (keyspace.indexKey path value) ↔
      id ∈ second.members (keyspace.indexKey path value))
  placed : ∀ path,
    first.position? (keyspace.geoKey path) id = second.position? (keyspace.geoKey path) id

/-- An update changes nothing that can be seen of another entity. -/
def Isolated (declared : String → Prop) (update : Update) (store : Store) : Prop :=
  ∀ keyspace id, ColonFree keyspace.name → (keyspace, id) ≠ (update.keyspace, update.id) →
    SameEntity declared keyspace id store (update.apply store)

/-- A key of a keyspace that ids are found at: the registry, or an index set of a declared path. -/
def Keyspace.Searched (declared : String → Prop) (keyspace : Keyspace) (key : Bytes) : Prop :=
  key = keyspace.registryKey ∨ ∃ path value, declared path ∧ key = keyspace.indexKey path value

/-- Where the list of the id is at the key of an index set, that set has no other members than the
update is about to list, and names no set of another keyspace that the id is in. -/
def Undisturbed (declared : String → Prop) (update : Update) (store : Store) : Prop :=
  let helper := update.keyspace.helperKey update.id
  ∀ path value, declared path → helper = update.keyspace.indexKey path value →
    (∀ other, other ≠ update.id → (other ∈ store.members helper ↔ other ∈ update.indexKeys)) ∧
    (∀ keyspace key, ColonFree keyspace.name → keyspace ≠ update.keyspace →
      keyspace.Searched declared key → key ∈ store.members helper →
        ¬ update.id ∈ store.members key)

/-- The keyspace and the paths of an update have no colon, and its index entries are declared. -/
structure Update.Plain (declared : String → Prop) (update : Update) : Prop where
  keyspace : ColonFree update.keyspace.name
  indexes : ∀ entry ∈ update.indexes, declared entry.path

variable {declared : String → Prop} {update : Update} {history : History} {keyspace : Keyspace}
  {id other key place : Bytes} {store : Store}

/-! ## Part 1 — keys of different keyspaces -/

theorem Update.exists_of_mem_indexKeys (plain : update.Plain declared)
    (named : key ∈ update.indexKeys) :
    ∃ path value, declared path ∧ key = update.keyspace.indexKey path value := by
  obtain ⟨entry, listed, rfl⟩ := List.mem_map.mp named
  exact ⟨entry.path, entry.value.bytes, plain.indexes entry listed, rfl⟩

/-- The sets that an update enters are of its own keyspace. -/
theorem Update.searched_of_mem_entered (plain : update.Plain declared)
    (entered : place ∈ update.entered) : update.keyspace.Searched declared place := by
  by_cases registry : place = update.keyspace.registryKey
  · exact .inl registry
  · exact .inr (exists_of_mem_indexKeys plain ((mem_entered_of_ne registry).mp entered))

namespace Keyspace

variable {first second : Keyspace}

/-- No list of index keys is at a key of another keyspace. -/
theorem Searched.ne_helperKey (searched : first.Searched declared key)
    (firstFree : ColonFree first.name) (secondFree : ColonFree second.name)
    (different : first ≠ second) (id : Bytes) : key ≠ second.helperKey id := by
  rcases searched with rfl | ⟨path, value, _, rfl⟩
  · exact registryKey_ne_keyStart firstFree _
  · exact fun equal => different ((keyStart_append_inj firstFree secondFree).mp equal).1

/-- A searched key tells its keyspace. -/
theorem Searched.keyspace_eq (firstSearched : first.Searched declared key)
    (secondSearched : second.Searched declared key) (firstFree : ColonFree first.name)
    (secondFree : ColonFree second.name) : first = second := by
  rcases firstSearched with rfl | ⟨path, value, _, rfl⟩
  · rcases secondSearched with equal | ⟨otherPath, otherValue, _, equal⟩
    · exact registryKey_inj.mp equal
    · exact (registryKey_ne_keyStart firstFree _ equal).elim
  · rcases secondSearched with equal | ⟨otherPath, otherValue, _, equal⟩
    · exact (registryKey_ne_keyStart secondFree _ equal.symm).elim
    · exact ((keyStart_append_inj firstFree secondFree).mp equal).1

end Keyspace

/-! ## Part 2 — what an update does to other entities -/

/-- In its own keyspace an update does nothing to the sets of another id, but for the set at its own
list. -/
theorem Update.mem_members_apply_of_ne (different : other ≠ update.id)
    (apart : place ≠ update.keyspace.helperKey update.id) :
    other ∈ (update.apply store).members place ↔ other ∈ store.members place := by
  rw [mem_members_apply]
  simp [different, apart]

/-- In another keyspace an update removes its own id from the sets that its list names. -/
theorem Update.mem_members_apply_of_keyspace_ne (plain : update.Plain declared)
    (free : ColonFree keyspace.name) (different : keyspace ≠ update.keyspace)
    (searched : keyspace.Searched declared place) :
    other ∈ (update.apply store).members place ↔
      other ∈ store.members place ∧
        ¬ (place ∈ store.members (update.keyspace.helperKey update.id) ∧ other = update.id) := by
  have apart := searched.ne_helperKey free plain.keyspace different update.id
  have entered : place ∉ update.entered := fun entered =>
    different (searched.keyspace_eq (searched_of_mem_entered plain entered) free plain.keyspace)
  have registry : place ≠ update.keyspace.registryKey := fun equal =>
    different (searched.keyspace_eq (.inl equal) free plain.keyspace)
  rw [mem_members_apply]
  simp [apart, entered, registry]

theorem Update.get?_fields_apply_of_ne (plain : update.Plain declared)
    (free : ColonFree keyspace.name) (other : (keyspace, id) ≠ (update.keyspace, update.id)) :
    (update.apply store).fields.get? (keyspace.entityKey id) =
      store.fields.get? (keyspace.entityKey id) := by
  rw [get?_fields_apply, if_neg]
  intro equal
  obtain ⟨sameSpace, sameId⟩ := (Keyspace.entityKey_eq_iff free plain.keyspace).mp equal
  exact other (Prod.ext sameSpace sameId)

theorem Update.position?_apply_of_ne (plain : update.Plain declared)
    (free : ColonFree keyspace.name) (other : (keyspace, id) ≠ (update.keyspace, update.id))
    (path : String) :
    (update.apply store).position? (keyspace.geoKey path) id =
      store.position? (keyspace.geoKey path) id := by
  rw [position?_apply]
  by_cases sameId : id = update.id
  · have unlisted : (update.moves.filter fun entry =>
        keyspace.geoKey path = update.keyspace.geoKey entry.path) = [] := by
      rw [List.filter_eq_nil_iff]
      intro entry _ equal
      have equal := (Keyspace.keyStart_append_inj free plain.keyspace).mp (of_decide_eq_true equal)
      exact other (Prod.ext equal.1 sameId)
    rw [if_pos sameId, unlisted]
    rfl
  · rw [if_neg sameId]

/-! ## Part 3 — the lists of index keys after a history -/

/-- A list that is at no key of an index set names index sets of its own keyspace only. -/
theorem History.searched_of_mem_helper (plain : ∀ update ∈ history, update.Plain declared)
    (free : ColonFree keyspace.name)
    (apart : ∀ path value, declared path → keyspace.helperKey id ≠ keyspace.indexKey path value)
    (named : key ∈ history.store.members (keyspace.helperKey id)) :
    keyspace.Searched declared key := by
  induction history using List.reverseRecOn with
  | nil => exact (InsertionSet.not_mem_empty key named).elim
  | append_singleton history update ih =>
    have plainLast : update.Plain declared :=
      plain update (List.mem_append_right _ List.mem_cons_self)
    have earlier := ih fun update listed => plain update (List.mem_append_left _ listed)
    rw [History.store_concat, Update.mem_members_apply] at named
    rcases named with ⟨_, entered⟩ | ⟨same, listed⟩ | ⟨_, before, _⟩
    · exfalso
      rcases Update.searched_of_mem_entered plainLast entered with
        equal | ⟨path, value, known, equal⟩
      · exact Keyspace.registryKey_ne_keyStart plainLast.keyspace _ equal.symm
      · obtain ⟨rfl, _⟩ := (Keyspace.keyStart_append_inj free plainLast.keyspace).mp equal
        exact apart path value known equal
    · obtain ⟨rfl, _⟩ := (Keyspace.keyStart_append_inj free plainLast.keyspace).mp same
      exact .inr (Update.exists_of_mem_indexKeys plainLast listed)
    · exact earlier before

/-! ## Part 4 — isolation -/

/-- In an undisturbed store, the members of every searched set stay, the updated entity apart. -/
theorem Undisturbed.mem_members_apply (undisturbed : Undisturbed declared update history.store)
    (plain : ∀ update ∈ history, update.Plain declared) (plainUpdate : update.Plain declared)
    (free : ColonFree keyspace.name) (other : (keyspace, id) ≠ (update.keyspace, update.id))
    (searched : keyspace.Searched declared key) :
    id ∈ history.store.members key ↔ id ∈ (update.apply history.store).members key := by
  by_cases sameSpace : keyspace = update.keyspace
  · subst sameSpace
    have different : id ≠ update.id := fun same => other (Prod.ext rfl same)
    by_cases atHelper : key = update.keyspace.helperKey update.id
    · subst atHelper
      rcases searched with registry | ⟨path, value, known, equal⟩
      · exact (Keyspace.helperKey_ne_registryKey _ _ registry).elim
      · rw [(undisturbed path value known equal).1 id different, Update.mem_members_apply]
        simp [different]
    · exact (Update.mem_members_apply_of_ne different atHelper).symm
  · rw [Update.mem_members_apply_of_keyspace_ne plainUpdate free sameSpace searched]
    refine (and_iff_left_of_imp fun member both => ?_).symm
    obtain ⟨named, rfl⟩ := both
    by_cases shared : ∃ path value, declared path ∧
        update.keyspace.helperKey update.id = update.keyspace.indexKey path value
    · obtain ⟨path, value, known, equal⟩ := shared
      exact (undisturbed path value known equal).2 keyspace key free sameSpace searched named member
    · -- a list of its own names sets of its own keyspace
      have own : update.keyspace.Searched declared key :=
        History.searched_of_mem_helper plain plainUpdate.keyspace
          (fun path value known equal => shared ⟨path, value, known, equal⟩) named
      exact sameSpace (searched.keyspace_eq own free plainUpdate.keyspace)

theorem isolated_of_undisturbed (undisturbed : Undisturbed declared update history.store)
    (plain : ∀ update ∈ history, update.Plain declared) (plainUpdate : update.Plain declared) :
    Isolated declared update history.store := by
  intro keyspace id free other
  constructor
  · exact (Update.get?_fields_apply_of_ne plainUpdate free other).symm
  · exact undisturbed.mem_members_apply plain plainUpdate free other (.inl rfl)
  · intro path value known
    have searched : keyspace.Searched declared (keyspace.indexKey path value) :=
      .inr ⟨path, value, known, rfl⟩
    exact undisturbed.mem_members_apply plain plainUpdate free other searched
  · exact fun path => (Update.position?_apply_of_ne plainUpdate free other path).symm

theorem undisturbed_of_isolated (isolated : Isolated declared update store)
    (plain : update.Plain declared) : Undisturbed declared update store := by
  intro path value known equal
  constructor
  · intro other different
    have unchanged := (isolated update.keyspace other plain.keyspace
      fun same => different (congrArg Prod.snd same)).indexed path value known
    rw [← equal, Update.mem_members_apply] at unchanged
    simpa [different] using unchanged
  · intro keyspace key free different searched named member
    have unchanged := isolated keyspace update.id free
      fun same => different (congrArg Prod.fst same)
    have kept : update.id ∈ (update.apply store).members key := by
      rcases searched with rfl | ⟨path, value, known, rfl⟩
      · exact unchanged.registered.mp member
      · exact (unchanged.indexed path value known).mp member
    rw [Update.mem_members_apply_of_keyspace_ne plain free different searched] at kept
    exact kept.2 ⟨named, rfl⟩

/-- **An update leaves every other entity as it was exactly if it finds the store undisturbed**,
whatever was written and removed before, in whatever keyspaces. -/
theorem isolated_iff (plain : ∀ update ∈ history, update.Plain declared)
    (plainUpdate : update.Plain declared) :
    Isolated declared update history.store ↔ Undisturbed declared update history.store :=
  ⟨fun isolated => undisturbed_of_isolated isolated plainUpdate,
    fun undisturbed => isolated_of_undisturbed undisturbed plain plainUpdate⟩

/-- The third person comes to town. -/
def arrival : Update :=
  .put (.ofTexts "persons" "3" [("city", "\"Tear\"")] [("city", "Tear")] [])

/-- The list of the id `3` is at no key of a city or a tag. -/
theorem undisturbed_arrival (store : Store) : Undisturbed (· ∈ ["city", "tag"]) arrival store := by
  intro path value known equal
  have same := Keyspace.helperKey_eq_indexKey_iff.mp equal
  simp only [List.mem_cons, List.not_mem_nil, or_false] at known
  rcases known with rfl | rfl <;> exact nomatch same

theorem isolated_iff_arrival :
    (∀ update ∈ moving, update.Plain (· ∈ ["city", "tag"])) ∧ arrival.Plain (· ∈ ["city", "tag"]) ∧
      Isolated (· ∈ ["city", "tag"]) arrival moving.store := by
  have keyspaces : ∀ update ∈ moving, ColonFree update.keyspace.name := by decide
  have paths : ∀ update ∈ moving, ∀ entry ∈ update.indexes, entry.path ∈ ["city", "tag"] := by
    decide
  have plain : ∀ update ∈ moving, update.Plain (· ∈ ["city", "tag"]) :=
    fun update listed => ⟨keyspaces update listed, paths update listed⟩
  have plainArrival : arrival.Plain (· ∈ ["city", "tag"]) := ⟨by decide, by decide⟩
  exact ⟨plain, plainArrival, (isolated_iff plain plainArrival).mpr (undisturbed_arrival _)⟩

/-- A write of the id `city`, without any index entry. -/
def writeOfCity : Update :=
  .put (.ofTexts "persons" "city" [("city", "\"Tear\"")] [] [])

/-- **Two entities of one keyspace may not get along.** The write of the id `city` drops the set of
those whose city is `idx`. -/
theorem not_isolated_cityOfIdx :
    (∀ update ∈ cityOfIdx, update.Plain ColonFree) ∧ writeOfCity.Plain ColonFree ∧
      ¬ Isolated ColonFree writeOfCity cityOfIdx.store := by
  have keyspaces : ∀ update ∈ cityOfIdx, ColonFree update.keyspace.name := by decide
  have paths : ∀ update ∈ cityOfIdx, ∀ entry ∈ update.indexes, ColonFree entry.path := by decide
  refine ⟨fun update listed => ⟨keyspaces update listed, paths update listed⟩,
    ⟨by decide, by decide⟩, fun isolated => ?_⟩
  have same := isolated ⟨"persons"⟩ (Bytes.ofString "2") (by decide) (by decide)
  have kept := same.indexed "city" (Bytes.ofString "idx") (by decide)
  revert kept
  decide

end SecondaryIndex
