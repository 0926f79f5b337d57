/-
**An update of an entity as a block of commands.**

A block is made from an update and from a list of index sets that the entity is taken to be in. It
clears what the list names, and enters what the update asks for:

* `Update.clears_of_mem` and `Update.enters_of_mem` — all that the commands of a block may do;
* `member_helper_transaction` and `member_transaction` — the list and the index sets after a block;
* `Server.Consistent` — the index sets that have the entity are those that its list names;
* `consistent_transaction` — a block that was made from the list of a consistent store leaves one;
* `consistent_after_iff` — a second block, from whatever it was made, leaves a consistent store
  exactly if it does not overlook what the first one entered.
-/

import SecondaryIndex.Proofs.Remote.Server
import SecondaryIndex.Proofs.Store.History

namespace SecondaryIndex

/-! ## Part 1 — updates as blocks -/

namespace Update

open Remote

/-- The block that makes an update of an entity which belongs to the given index sets. -/
def transaction (stale : List Bytes) : Update → List Command
  | .put write => Exchange.putCommands write stale
  | .delete keyspace id paths => Exchange.deleteCommands keyspace id paths stale

/-- The commands of a block that remove something. -/
def clearing (stale : List Bytes) : Update → List Command
  | .put write =>
    let key := write.keyspace.entityKey write.id
    Exchange.leaveSets write.id stale ++ [.drop (write.keyspace.helperKey write.id), .drop key] ++
      (if write.record.fields.isEmpty then [] else [.setFields key write.record.fields])
  | .delete keyspace id paths => Exchange.deleteCommands keyspace id paths stale

/-- The commands of a block that register the entity, and give it its sets and positions. -/
def entering : Update → List Command
  | .put write =>
    [.addMember write.keyspace.registryKey write.id] ++
      write.indexes.flatMap (Exchange.enterSet write.keyspace write.id) ++
      write.positions.flatMap (Exchange.enterPosition write.keyspace write.id)
  | .delete .. => []

variable {update : Update} {stale : List Bytes} {key member : Bytes} {command : Command}

theorem transaction_eq (stale : List Bytes) (update : Update) :
    update.transaction stale = update.clearing stale ++ update.entering := by
  cases update with
  | put write =>
    rw [transaction, clearing, entering, Exchange.putCommands]
    simp only [List.append_assoc]
  | delete keyspace id paths =>
    rw [transaction, clearing, entering, List.append_nil]

/-- What a command of a block may remove or replace. -/
inductive Clears (update : Update) (stale : List Bytes) : Command → Prop
  | stale {key : Bytes} : key ∈ stale → Clears update stale (.removeMember key update.id)
  | registry : Clears update stale (.removeMember update.keyspace.registryKey update.id)
  | list : Clears update stale (.drop (update.keyspace.helperKey update.id))
  | fields : Clears update stale (.drop (update.keyspace.entityKey update.id))
  | replaced {fields : Fields} : fields.isEmpty = false →
      Clears update stale (.setFields (update.keyspace.entityKey update.id) fields)
  | position {path : String} : path ∈ update.paths →
      Clears update stale (.removePosition (update.keyspace.geoKey path) update.id)

/-- What a command of a block may register or enter. -/
inductive Enters (update : Update) : Command → Prop
  | registry : Enters update (.addMember update.keyspace.registryKey update.id)
  | index {key : Bytes} : key ∈ update.indexKeys → Enters update (.addMember key update.id)
  | list {key : Bytes} : key ∈ update.indexKeys →
      Enters update (.addMember (update.keyspace.helperKey update.id) key)
  | left {path : String} : path ∈ update.paths →
      Enters update (.removePosition (update.keyspace.geoKey path) update.id)
  | position {path : String} {point : Point} : path ∈ update.paths →
      Enters update (.setPosition (update.keyspace.geoKey path) update.id point)

theorem clears_of_mem (listed : command ∈ update.clearing stale) : Clears update stale command := by
  cases update with
  | put write =>
    simp only [clearing, Exchange.leaveSets, List.mem_append, List.mem_map, List.mem_cons,
      List.not_mem_nil, or_false] at listed
    rcases listed with (⟨key, named, rfl⟩ | rfl | rfl) | set
    · exact .stale named
    · exact .list
    · exact .fields
    · split at set
      · cases set
      · rename_i some
        rw [List.mem_singleton.mp set]
        exact .replaced (Bool.eq_false_iff.mpr some)
  | delete keyspace id paths =>
    simp only [clearing, Exchange.deleteCommands, Exchange.withdrawCommands, Exchange.leaveSets,
      List.mem_append, List.mem_map, List.mem_cons, List.not_mem_nil, or_false] at listed
    rcases listed with ((⟨key, named, rfl⟩ | ⟨path, named, rfl⟩) | rfl) | rfl | rfl
    · exact .stale named
    · have settled : path ∈ Update.paths (.delete keyspace id paths) := by
        simpa [Update.paths, moves] using named
      exact .position settled
    · exact .list
    · exact .registry
    · exact .fields

theorem enters_of_mem (listed : command ∈ update.entering) : Enters update command := by
  cases update with
  | put write =>
    simp only [entering, Exchange.enterSet, Exchange.enterPosition, List.mem_append,
      List.mem_flatMap, List.mem_map, List.mem_cons, List.not_mem_nil, or_false] at listed
    rcases listed with (rfl | ⟨entry, named, rfl | rfl⟩) | ⟨entry, named, rfl | ⟨point, _, rfl⟩⟩
    · exact .registry
    · exact .index (List.mem_map.mpr ⟨entry, named, rfl⟩)
    · exact .list (List.mem_map.mpr ⟨entry, named, rfl⟩)
    · exact .left (List.mem_map.mpr ⟨entry, named, rfl⟩)
    · exact .position (List.mem_map.mpr ⟨entry, named, rfl⟩)
  | delete keyspace id paths => cases listed

theorem removeMember_mem_clearing (named : key ∈ stale) :
    .removeMember key update.id ∈ update.clearing stale := by
  have left : .removeMember key update.id ∈ Exchange.leaveSets update.id stale :=
    List.mem_map.mpr ⟨key, named, rfl⟩
  cases update with
  | put write => exact List.mem_append_left _ (List.mem_append_left _ left)
  | delete keyspace id paths =>
    exact List.mem_append_left _ (List.mem_append_left _ (List.mem_append_left _ left))

theorem drop_mem_clearing :
    .drop (update.keyspace.helperKey update.id) ∈ update.clearing stale := by
  cases update with
  | put write => exact List.mem_append_left _ (List.mem_append_right _ List.mem_cons_self)
  | delete keyspace id paths =>
    exact List.mem_append_left _ (List.mem_append_right _ List.mem_cons_self)

theorem addMember_mem_entering (named : key ∈ update.indexKeys) :
    .addMember key update.id ∈ update.entering ∧
      .addMember (update.keyspace.helperKey update.id) key ∈ update.entering := by
  cases update with
  | put write =>
    obtain ⟨entry, listed, rfl⟩ := List.mem_map.mp named
    have entered : ∀ command ∈ Exchange.enterSet write.keyspace write.id entry,
        command ∈ entering (.put write) := by
      intro command member
      have indexed := List.mem_flatMap.mpr ⟨entry, listed, member⟩
      exact List.mem_append_left _ (List.mem_append_right _ indexed)
    exact ⟨entered _ List.mem_cons_self, entered _ (List.mem_cons_of_mem _ List.mem_cons_self)⟩
  | delete keyspace id paths => cases named

/-- A block is never refused. -/
theorem complete_of_mem_transaction (listed : command ∈ update.transaction stale) :
    command.complete := by
  rw [transaction_eq, List.mem_append] at listed
  rcases listed with listed | listed
  · cases clears_of_mem listed with
    | replaced some => simpa [Command.complete] using some
    | _ => rfl
  · cases enters_of_mem listed <;> rfl

end Update

/-! ## Part 2 — what a block does to the sets of a server -/

namespace Remote

/-- No key of an entity has two uses: its fields, its list and the given positions are at no key of
its index sets, and no position is at the key of its list. -/
structure Apart (keyspace : Keyspace) (id : Bytes) (indexKeys : List Bytes) (paths : List String) :
    Prop where
  entity : keyspace.entityKey id ∉ indexKeys
  helper : keyspace.helperKey id ∉ indexKeys
  positions : ∀ path ∈ paths, keyspace.geoKey path ∉ keyspace.helperKey id :: indexKeys

/-- An update whose keys are among those that are kept apart. -/
structure Within (keyspace : Keyspace) (id : Bytes) (indexKeys : List Bytes) (paths : List String)
    (update : Update) : Prop where
  keyspace_eq : update.keyspace = keyspace
  id_eq : update.id = id
  indexKeys_subset : update.indexKeys ⊆ indexKeys
  paths_subset : update.paths ⊆ paths

namespace Server

variable {server : Server} {update : Update} {state : server.State} {stale : List Bytes}
  {indexKeys : List Bytes} {paths : List String} {key member : Bytes}

/-- The list names the members of the set at a key. -/
def Lists (server : Server) (state : server.State) (key : Bytes) (listed : List Bytes) : Prop :=
  ∀ member, member ∈ listed ↔ server.Member state key member

/-- **The index sets that have the entity are those that its list names.** -/
def Consistent (server : Server) (keyspace : Keyspace) (id : Bytes) (state : server.State) : Prop :=
  ∀ path value, keyspace.indexKey path value ≠ keyspace.helperKey id →
    (server.Member state (keyspace.indexKey path value) id ↔
      server.Member state (keyspace.helperKey id) (keyspace.indexKey path value))

section Block

variable {keyspace : Keyspace} {id : Bytes}

/-- A block leaves nothing but sets at the keys that are kept apart. -/
theorem respects_transaction (stale : List Bytes) (apart : Apart keyspace id indexKeys paths)
    (inside : Within keyspace id indexKeys paths update)
    (named : key ∈ keyspace.helperKey id :: indexKeys) :
    ∀ command ∈ update.clearing stale ++ update.entering, command.Respects key := by
  obtain ⟨rfl, rfl, _, known⟩ := inside
  have fields : update.keyspace.entityKey update.id ≠ key := by
    rintro rfl
    rcases List.mem_cons.mp named with equal | listed
    · exact update.keyspace.entityKey_ne_helperKey update.id equal
    · exact apart.entity listed
  have positions : ∀ path ∈ update.paths, update.keyspace.geoKey path ≠ key := by
    rintro path listed rfl
    exact apart.positions path (known listed) named
  intro command listed
  rcases List.mem_append.mp listed with listed | listed
  · cases Update.clears_of_mem listed with
    | replaced some => exact fun same => fields (Option.some.inj same)
    | position settled => exact fun same => positions _ settled (Option.some.inj same)
    | _ => trivial
  · cases Update.enters_of_mem listed with
    | left settled => exact fun same => positions _ settled (Option.some.inj same)
    | position settled => exact fun same => positions _ settled (Option.some.inj same)
    | _ => trivial

theorem hasSet_transaction (apart : Apart keyspace id indexKeys paths)
    (inside : Within keyspace id indexKeys paths update)
    (named : key ∈ keyspace.helperKey id :: indexKeys) (typed : server.HasSet state key) :
    server.HasSet (server.after (update.transaction stale) state) key := by
  rw [Update.transaction_eq]
  exact hasSet_after (respects_transaction stale apart inside named) typed

/-- What a block enters, if it is a set that is kept apart, it does not leave again. -/
theorem member_of_mem_entering (apart : Apart keyspace id indexKeys paths)
    (inside : Within keyspace id indexKeys paths update)
    (named : key ∈ keyspace.helperKey id :: indexKeys) (typed : server.HasSet state key)
    (entered : .addMember key member ∈ update.entering) :
    server.Member (server.after (update.transaction stale) state) key member := by
  have respects := respects_transaction stale apart inside named
  rw [List.forall_mem_append] at respects
  rw [Update.transaction_eq, after_append]
  refine member_after_of_mem respects.2 ?_ ?_ (hasSet_after respects.1 typed) entered
  · intro listed
    exact nomatch Update.enters_of_mem listed
  · intro listed
    exact nomatch Update.enters_of_mem listed

/-- **The list after a block** names the index sets that the block enters. -/
theorem member_helper_transaction (apart : Apart keyspace id indexKeys paths)
    (inside : Within keyspace id indexKeys paths update)
    (typed : server.HasSet state (keyspace.helperKey id)) :
    server.Member (server.after (update.transaction stale) state) (keyspace.helperKey id) member ↔
      member ∈ update.indexKeys := by
  constructor
  · intro held
    rw [Update.transaction_eq, after_append] at held
    obtain ⟨rfl, rfl, known, _⟩ := inside
    rcases member_of_member_after held with entered | before
    · generalize equal : update.keyspace.helperKey update.id = place at entered
      cases Update.enters_of_mem entered with
      | registry => exact (Keyspace.helperKey_ne_registryKey _ _ equal).elim
      | index listed => exact (apart.helper (equal ▸ known listed)).elim
      | list listed => exact listed
    · refine (not_member_after_of_mem ?_ (.inr Update.drop_mem_clearing) before).elim
      intro added
      exact nomatch Update.clears_of_mem added
  · intro listed
    have entered := (Update.addMember_mem_entering listed).2
    rw [inside.keyspace_eq, inside.id_eq] at entered
    exact member_of_mem_entering apart inside List.mem_cons_self typed entered

/-- The index sets that have the entity after a block are new, or not on the list that the block was
made from. -/
theorem member_of_member_transaction (inside : Within keyspace id indexKeys paths update)
    (unregistered : key ≠ keyspace.registryKey) (unlisted : key ≠ keyspace.helperKey id)
    (held : server.Member (server.after (update.transaction stale) state) key id) :
    key ∈ update.indexKeys ∨ (server.Member state key id ∧ key ∉ stale) := by
  obtain ⟨rfl, rfl, _, _⟩ := inside
  rw [Update.transaction_eq, after_append] at held
  rcases member_of_member_after held with entered | before
  · generalize update.id = other at entered
    cases Update.enters_of_mem entered with
    | registry => exact (unregistered rfl).elim
    | index listed => exact .inl listed
    | list listed => exact (unlisted rfl).elim
  · have fresh : .addMember key update.id ∉ update.clearing stale :=
      fun added => nomatch Update.clears_of_mem added
    refine .inr ⟨(member_of_member_after before).resolve_left fresh, fun named => ?_⟩
    exact not_member_after_of_mem fresh (.inl (Update.removeMember_mem_clearing named)) before

/-- **The index sets after a block**: those that it enters, and those that the entity was in already
and that the block was not made to leave. -/
theorem member_transaction (stale : List Bytes) (apart : Apart keyspace id indexKeys paths)
    (inside : Within keyspace id indexKeys paths update) (named : key ∈ indexKeys)
    (unregistered : key ≠ keyspace.registryKey) (typed : server.HasSet state key) :
    server.Member (server.after (update.transaction stale) state) key id ↔
      key ∈ update.indexKeys ∨ (server.Member state key id ∧ key ∉ stale) := by
  have unlisted : key ≠ keyspace.helperKey id := fun same => apart.helper (same ▸ named)
  refine ⟨member_of_member_transaction inside unregistered unlisted, ?_⟩
  have respects := respects_transaction stale apart inside
    (List.mem_cons_of_mem (keyspace.helperKey id) named)
  rintro (entered | ⟨before, kept⟩)
  · have added := (Update.addMember_mem_entering entered).1
    rw [inside.id_eq] at added
    exact member_of_mem_entering apart inside (List.mem_cons_of_mem _ named) typed added
  · have fieldless : key ≠ keyspace.entityKey id := fun same => apart.entity (same ▸ named)
    obtain ⟨rfl, rfl, _, _⟩ := inside
    rw [Update.transaction_eq]
    refine member_after respects (fun listed => ?_) (fun listed => ?_) typed before
    · rcases List.mem_append.mp listed with listed | listed
      · cases Update.clears_of_mem listed with
        | stale named => exact kept named
        | registry => exact unregistered rfl
      · exact nomatch Update.enters_of_mem listed
    · rcases List.mem_append.mp listed with listed | listed
      · cases Update.clears_of_mem listed with
        | list => exact unlisted rfl
        | fields => exact fieldless rfl
      · exact nomatch Update.enters_of_mem listed

/-- The keys that are kept apart hold sets, or nothing. -/
def Typed (server : Server) (keyspace : Keyspace) (id : Bytes) (indexKeys : List Bytes)
    (state : server.State) : Prop :=
  ∀ key ∈ keyspace.helperKey id :: indexKeys, server.HasSet state key

theorem typed_transaction (stale : List Bytes) (apart : Apart keyspace id indexKeys paths)
    (inside : Within keyspace id indexKeys paths update)
    (typed : server.Typed keyspace id indexKeys state) :
    server.Typed keyspace id indexKeys (server.after (update.transaction stale) state) :=
  fun key named => hasSet_transaction apart inside named (typed key named)

/-- The index sets of an update are at keys of their role. -/
theorem exists_indexKey (inside : Within keyspace id indexKeys paths update)
    (named : key ∈ update.indexKeys) : ∃ path value, key = keyspace.indexKey path value := by
  obtain ⟨entry, _, rfl⟩ := List.mem_map.mp named
  exact ⟨entry.path, entry.value.bytes, by rw [inside.keyspace_eq]⟩

/-- After a block that was made from the list of a consistent store, the entity is in the index sets
that the block enters. -/
theorem member_transaction_of_consistent (apart : Apart keyspace id indexKeys paths)
    (inside : Within keyspace id indexKeys paths update)
    (typed : server.Typed keyspace id indexKeys state)
    (consistent : server.Consistent keyspace id state)
    (lists : server.Lists state (keyspace.helperKey id) stale) {path : String} {value : Bytes}
    (unlisted : keyspace.indexKey path value ≠ keyspace.helperKey id) :
    server.Member (server.after (update.transaction stale) state)
        (keyspace.indexKey path value) id ↔
      keyspace.indexKey path value ∈ update.indexKeys := by
  have unregistered := keyspace.indexKey_ne_registryKey path value
  constructor
  · intro held
    refine (member_of_member_transaction inside unregistered unlisted held).resolve_right ?_
    rintro ⟨before, kept⟩
    exact kept ((lists _).mpr ((consistent path value unlisted).mp before))
  · intro entered
    have named := inside.indexKeys_subset entered
    exact (member_transaction _ apart inside named unregistered
      (typed _ (List.mem_cons_of_mem _ named))).mpr (.inl entered)

/-- **A block that was made from the list of a consistent store** leaves one. -/
theorem consistent_transaction (apart : Apart keyspace id indexKeys paths)
    (inside : Within keyspace id indexKeys paths update)
    (typed : server.Typed keyspace id indexKeys state)
    (consistent : server.Consistent keyspace id state)
    (lists : server.Lists state (keyspace.helperKey id) stale) :
    server.Consistent keyspace id (server.after (update.transaction stale) state) :=
  fun _ _ unlisted =>
    (member_transaction_of_consistent apart inside typed consistent lists unlisted).trans
      (member_helper_transaction apart inside (typed _ List.mem_cons_self)).symm

/-- **Two blocks, one after the other.** The first is made from the list of a consistent store. Then
the second, from whatever it was made, leaves a consistent store exactly if no index set that the
first enters was overlooked. -/
theorem consistent_after_iff {earlier : Update} {first second : List Bytes}
    (apart : Apart keyspace id indexKeys paths)
    (insideEarlier : Within keyspace id indexKeys paths earlier)
    (inside : Within keyspace id indexKeys paths update)
    (typed : server.Typed keyspace id indexKeys state)
    (consistent : server.Consistent keyspace id state)
    (lists : server.Lists state (keyspace.helperKey id) first) :
    server.Consistent keyspace id (server.after (update.transaction second)
        (server.after (earlier.transaction first) state)) ↔
      ∀ key ∈ earlier.indexKeys, key ∈ second ∨ key ∈ update.indexKeys := by
  have typedBetween := typed_transaction first apart insideEarlier typed
  have typedHelper := typedBetween _ List.mem_cons_self
  have between : ∀ path value, keyspace.indexKey path value ≠ keyspace.helperKey id →
      (server.Member (server.after (earlier.transaction first) state)
          (keyspace.indexKey path value) id ↔
        keyspace.indexKey path value ∈ earlier.indexKeys) := fun path value unlisted =>
    member_transaction_of_consistent apart insideEarlier typed consistent lists unlisted
  constructor
  · intro after key entered
    have named := insideEarlier.indexKeys_subset entered
    have unlisted : key ≠ keyspace.helperKey id := fun same => apart.helper (same ▸ named)
    obtain ⟨path, value, rfl⟩ := exists_indexKey insideEarlier entered
    by_cases overlooked : keyspace.indexKey path value ∈ second
    · exact .inl overlooked
    · right
      have held := (member_transaction second apart inside named
        (keyspace.indexKey_ne_registryKey path value)
        (typedBetween _ (List.mem_cons_of_mem _ named))).mpr
          (.inr ⟨(between path value unlisted).mpr entered, overlooked⟩)
      exact (member_helper_transaction apart inside typedHelper).mp
        ((after path value unlisted).mp held)
  · intro covered path value unlisted
    have unregistered := keyspace.indexKey_ne_registryKey path value
    rw [member_helper_transaction apart inside typedHelper]
    constructor
    · intro held
      rcases member_of_member_transaction inside unregistered unlisted held with
        entered | ⟨before, kept⟩
      · exact entered
      · have entered := (between path value unlisted).mp before
        exact (covered _ entered).resolve_left kept
    · intro entered
      have named := inside.indexKeys_subset entered
      exact (member_transaction _ apart inside named unregistered
        (typedBetween _ (List.mem_cons_of_mem _ named))).mpr (.inl entered)

end Block

end Server

end Remote

end SecondaryIndex
