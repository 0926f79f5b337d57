/-
**What is at the keys of a remote store, and in a store in the same process.**

The two carry out updates in different orders and with different means. Where every key is used for
one thing only, they keep the same content:

* `Update.Fits` — an update uses each key for what it is for, and `History.KeysApart.fits` — updates
  do so if their keys for different things are different;
* `Agrees` — what is at the keys of a database is what a store has there;
* `Agrees.addMember` and its like — one lemma for each command of a block;
* `runs_put`, `runs_withdraw` — whole blocks keep the agreement.
-/

import SecondaryIndex.Proofs.Remote.Database
import SecondaryIndex.Proofs.Store.Order

namespace SecondaryIndex

open Remote

/-! ## Part 1 — what keys are for -/

/-- What a key is for. -/
inductive Use where
  /-- The ids of a registry or of an index set. -/
  | ids
  /-- The index keys of one entity. -/
  | list
  /-- The fields of one entity. -/
  | fields
  /-- The positions of a path. -/
  | positions
deriving DecidableEq

/-- Every key of an update is for the one thing that it is used for, and its points are accepted. -/
structure Update.Fits (use : Bytes → Use) (accepts : Point → Prop) (update : Update) : Prop where
  registry : use update.keyspace.registryKey = .ids
  indexes : ∀ key ∈ update.indexKeys, use key = .ids
  list : use (update.keyspace.helperKey update.id) = .list
  fields : use (update.keyspace.entityKey update.id) = .fields
  positions : ∀ path ∈ update.paths, use (update.keyspace.geoKey path) = .positions
  points : ∀ entry ∈ update.moves, ∀ point, entry.point = some point → accepts point

namespace History

/-- The keys of the fields of entities, one for each id. -/
def entityKeys (history : History) : List Bytes :=
  history.map fun update => update.keyspace.entityKey update.id

/-- The keys of the registries and of the index sets. -/
def idKeys (history : History) : List Bytes :=
  history.map (fun update => update.keyspace.registryKey) ++ history.indexKeys

/-- What the keys of some updates are for; any other key is taken for one of fields. -/
def use (history : History) (key : Bytes) : Use :=
  if key ∈ history.idKeys then .ids
  else if key ∈ history.helperKeys then .list
  else if key ∈ history.entityKeys then .fields
  else if key ∈ history.flatMap (fun update => update.paths.map update.keyspace.geoKey) then
    .positions
  else .fields

/-- Keys that some updates use for different things are different. -/
structure KeysApart (history : History) : Prop where
  lists : ∀ key ∈ history.helperKeys, key ∉ history.idKeys
  fields : ∀ key ∈ history.entityKeys, key ∉ history.idKeys ∧ key ∉ history.helperKeys
  positions : ∀ update ∈ history, ∀ path ∈ update.paths,
    update.keyspace.geoKey path ∉ history.idKeys ∧
      update.keyspace.geoKey path ∉ history.helperKeys ∧
      update.keyspace.geoKey path ∉ history.entityKeys

/-- Updates whose keys are apart fit what their keys are for. -/
theorem KeysApart.fits {history : History} (apart : history.KeysApart) {accepts : Point → Prop}
    {update : Update} (listed : update ∈ history)
    (points : ∀ entry ∈ update.moves, ∀ point, entry.point = some point → accepts point) :
    update.Fits history.use accepts where
  registry := if_pos (List.mem_append_left _ (List.mem_map_of_mem listed))
  indexes _ indexed :=
    if_pos (List.mem_append_right _ (List.mem_flatMap.mpr ⟨update, listed, indexed⟩))
  list := by
    have named : update.keyspace.helperKey update.id ∈ history.helperKeys :=
      List.mem_map.mpr ⟨update, listed, rfl⟩
    rw [use, if_neg (apart.lists _ named), if_pos named]
  fields := by
    have named : update.keyspace.entityKey update.id ∈ history.entityKeys :=
      List.mem_map.mpr ⟨update, listed, rfl⟩
    obtain ⟨noIds, noList⟩ := apart.fields _ named
    rw [use, if_neg noIds, if_neg noList, if_pos named]
  positions path settled := by
    have named : update.keyspace.geoKey path ∈
        history.flatMap fun update => update.paths.map update.keyspace.geoKey :=
      List.mem_flatMap.mpr ⟨update, listed, List.mem_map_of_mem settled⟩
    obtain ⟨noIds, noList, noFields⟩ := apart.positions update listed path settled
    rw [use, if_neg noIds, if_neg noList, if_neg noFields, if_pos named]
  points := points

end History

/-! ## Part 2 — content -/

/-- What is at a key of a database is what a store has there. -/
structure AgreesAt (database : Database) (use : Bytes → Use) (state : database.State)
    (store : Store) (key : Bytes) : Prop where
  set : use key = .ids ∨ use key = .list → database.HasSet state key ∧
    ∀ member, database.Member state key member ↔ member ∈ store.members key
  list : use key = .list → ∀ member, member ∈ store.members key → use member = .ids
  fields : use key = .fields → (database.Exists state key ↔ store.fields.contains key) ∧
    database.HasFields state key ∧ database.fieldsOf state key = store.fieldsAt key
  positions : use key = .positions → database.HasPositions state key ∧
    ∀ member, database.Located state key member ↔ (store.position? key member).isSome

/-- **What is at the keys of a database is what a store has there.** -/
def Agrees (database : Database) (use : Bytes → Use) (state : database.State) (store : Store) :
    Prop :=
  ∀ key, AgreesAt database use state store key

namespace Store

variable {store : Store} {key member place : Bytes}

theorem SameAt.of_setMembers (set : InsertionSet Bytes) (different : place ≠ key) :
    (store.setMembers key set).SameAt store place :=
  ⟨(members_setMembers ..).trans (if_neg different), rfl, rfl⟩

theorem SameAt.of_dropSet (different : place ≠ key) : (store.dropSet key).SameAt store place :=
  ⟨(members_dropSet ..).trans (if_neg different), rfl, rfl⟩

theorem SameAt.of_setFields (fields : Fields) (different : place ≠ key) :
    (store.setFields key fields).SameAt store place :=
  ⟨rfl, (ByteMap.get?_insert ..).trans (if_neg different), rfl⟩

theorem SameAt.of_dropFields (different : place ≠ key) :
    (store.dropFields key).SameAt store place :=
  ⟨rfl, (ByteMap.get?_erase ..).trans (if_neg different), rfl⟩

theorem SameAt.of_setPositions (points : InsertionMap Bytes Point) (different : place ≠ key) :
    (store.setPositions key points).SameAt store place :=
  ⟨rfl, rfl, (positionsAt_setPositions ..).trans (if_neg different)⟩

end Store

section Commands

variable {database : Database} {use : Bytes → Use} {state : database.State} {store other : Store}
  {command : Command} {key member place : Bytes}

/-- A command that does not name a key keeps the agreement there. -/
theorem AgreesAt.leave (agrees : AgreesAt database use state store key)
    (unnamed : command.target? ≠ some key) (same : other.SameAt store key) :
    AgreesAt database use (database.execute command state).2 other key := by
  obtain ⟨sets, members⟩ := database.frame command state key unnamed
  obtain ⟨there, filled, fields, placed, located⟩ := database.leave command state key unnamed
  constructor
  · intro used
    rw [same.members, sets]
    exact ⟨(agrees.set used).1, fun member => (members member).trans ((agrees.set used).2 member)⟩
  · rw [same.members]
    exact agrees.list
  · rw [Store.fieldsAt, ByteMap.contains, same.fields, there, filled, fields]
    exact agrees.fields
  · intro used
    rw [placed]
    refine ⟨(agrees.positions used).1, fun member => (located member).trans ?_⟩
    rw [(agrees.positions used).2 member, Store.position?, Store.position?, same.positions]

/-- A command keeps the agreement if it keeps it at the key that it names. -/
theorem Agrees.step (agrees : Agrees database use state store) (named : command.target? = some key)
    (others : ∀ place, place ≠ key → other.SameAt store place)
    (here : AgreesAt database use (database.execute command state).2 other key) :
    Agrees database use (database.execute command state).2 other := by
  intro place
  by_cases same : place = key
  · exact same ▸ here
  · refine (agrees place).leave ?_ (others place same)
    rw [named]
    exact fun equal => same (Option.some.inj equal).symm

/-- A key that is for ids or for a list has neither fields nor positions. -/
theorem AgreesAt.of_set (used : use key = .ids ∨ use key = .list)
    (set : database.HasSet state key ∧
      ∀ member, database.Member state key member ↔ member ∈ store.members key)
    (list : use key = .list → ∀ member, member ∈ store.members key → use member = .ids) :
    AgreesAt database use state store key where
  set _ := set
  list := list
  fields named := by rcases used with used | used <;> exact nomatch used.symm.trans named
  positions named := by rcases used with used | used <;> exact nomatch used.symm.trans named

theorem AgreesAt.of_fields (used : use key = .fields)
    (fields : (database.Exists state key ↔ store.fields.contains key) ∧
      database.HasFields state key ∧ database.fieldsOf state key = store.fieldsAt key) :
    AgreesAt database use state store key where
  set named := by rcases named with named | named <;> exact nomatch used.symm.trans named
  list named := nomatch used.symm.trans named
  fields _ := fields
  positions named := nomatch used.symm.trans named

theorem AgreesAt.of_positions (used : use key = .positions)
    (positions : database.HasPositions state key ∧
      ∀ member, database.Located state key member ↔ (store.position? key member).isSome) :
    AgreesAt database use state store key where
  set named := by rcases named with named | named <;> exact nomatch used.symm.trans named
  list named := nomatch used.symm.trans named
  fields named := nomatch used.symm.trans named
  positions _ := positions

/-! ## Part 3 — commands -/

/-- Ids enter sets of ids, and the keys of such sets enter lists. -/
theorem Agrees.addMember (agrees : Agrees database use state store)
    (used : use key = .ids ∨ use key = .list ∧ use member = .ids) :
    Agrees database use (database.execute (.addMember key member) state).2
        (store.addMember key member) ∧
      (database.execute (.addMember key member) state).1.isError = false := by
  have either : use key = .ids ∨ use key = .list := used.imp_right And.left
  obtain ⟨typed, members⟩ := (agrees key).set either
  obtain ⟨typedAfter, added⟩ := database.add state key member typed
  refine ⟨agrees.step rfl (fun _ => .of_setMembers _) (.of_set either ⟨typedAfter, fun other => ?_⟩
    fun list other listed => ?_), database.addReply state key member typed⟩
  · rw [added, members, Store.mem_members_addMember, and_iff_right rfl, or_comm]
  · rcases Store.mem_members_addMember.mp listed with before | ⟨_, rfl⟩
    · exact (agrees key).list list other before
    · rcases used with used | used
      · exact nomatch used.symm.trans list
      · exact used.2

theorem Agrees.removeMember (agrees : Agrees database use state store)
    (used : use key = .ids ∨ use key = .list) :
    Agrees database use (database.execute (.removeMember key member) state).2
        (store.removeMember key member) ∧
      (database.execute (.removeMember key member) state).1 =
        Table.counted (member ∈ store.members key) := by
  obtain ⟨typed, members⟩ := (agrees key).set used
  obtain ⟨typedAfter, removed⟩ := database.remove state key member
  obtain ⟨found, missed⟩ := database.removeReply state key member typed
  refine ⟨agrees.step rfl (fun _ => .of_setMembers _) (.of_set used ⟨typedAfter typed,
    fun other => ?_⟩ fun list other listed => ?_), ?_⟩
  · rw [removed, members, Store.mem_members_removeMember, and_comm, and_iff_right rfl]
  · exact (agrees key).list list other (Store.mem_members_removeMember.mp listed).1
  · by_cases held : member ∈ store.members key
    · rw [found ((members member).mpr held), decide_eq_true held]
      rfl
    · rw [missed (mt (members member).mp held), decide_eq_false held]
      rfl

theorem Agrees.dropSet (agrees : Agrees database use state store)
    (used : use key = .ids ∨ use key = .list) :
    Agrees database use (database.execute (.drop key) state).2 (store.dropSet key) ∧
      (database.execute (.drop key) state).1.isError = false := by
  obtain ⟨typed, none⟩ := database.drop state key
  obtain ⟨found, missed⟩ := database.dropReply state key
  refine ⟨agrees.step rfl (fun _ => .of_dropSet) (.of_set used ⟨typed, fun other => ?_⟩
    fun _ other listed => ?_), ?_⟩
  · rw [Store.mem_members_dropSet]
    exact iff_of_false (none other) fun listed => listed.1 rfl
  · exact ((Store.mem_members_dropSet.mp listed).1 rfl).elim
  · by_cases there : database.Exists state key
    · rw [found there]
      rfl
    · rw [missed there]
      rfl

theorem Agrees.dropFields (agrees : Agrees database use state store) (used : use key = .fields) :
    Agrees database use (database.execute (.drop key) state).2 (store.dropFields key) ∧
      (database.execute (.drop key) state).1 = Table.counted (store.fields.contains key) := by
  obtain ⟨gone, typed, bare⟩ := database.dropFields state key
  obtain ⟨found, missed⟩ := database.dropReply state key
  have there := ((agrees key).fields used).1
  refine ⟨agrees.step rfl (fun _ => .of_dropFields) (.of_fields used ⟨?_, typed, ?_⟩), ?_⟩
  · rw [ByteMap.contains, Store.dropFields, ByteMap.get?_erase, if_pos rfl]
    exact iff_of_false gone Bool.false_ne_true
  · rw [bare, Store.fieldsAt_dropFields, if_pos rfl]
  · by_cases held : store.fields.contains key
    · rw [found (there.mpr held), held]
      rfl
    · rw [missed (mt there.mp held), Bool.eq_false_iff.mpr held]
      rfl

/-- Fields are set where there are none. -/
theorem Agrees.setFields (agrees : Agrees database use state store) (used : use key = .fields)
    {fields : Fields} (filled : fields.isEmpty = false) (bare : store.fieldsAt key = ∅) :
    Agrees database use (database.execute (.setFields key fields) state).2
        (store.setFields key fields) ∧
      (database.execute (.setFields key fields) state).1.isError = false := by
  obtain ⟨_, typed, held⟩ := (agrees key).fields used
  obtain ⟨fine, there, typedAfter, after⟩ := database.setFields state key fields typed filled
  refine ⟨agrees.step rfl (fun _ => .of_setFields _) (.of_fields used ⟨?_, typedAfter, ?_⟩), fine⟩
  · rw [ByteMap.contains, Store.setFields, ByteMap.get?_insert, if_pos rfl]
    exact iff_of_true there rfl
  · rw [Store.fieldsAt_setFields, if_pos rfl]
    refine ByteMap.ext_get? fun field => ?_
    rw [after, held, bare, ByteMap.get?_empty, Option.or_none]

theorem Agrees.setPosition (agrees : Agrees database use state store)
    (used : use key = .positions) {point : Point} (accepted : database.Accepts point) :
    Agrees database use (database.execute (.setPosition key member point) state).2
        (store.setPosition key member point) ∧
      (database.execute (.setPosition key member point) state).1.isError = false := by
  obtain ⟨typed, located⟩ := (agrees key).positions used
  obtain ⟨fine, typedAfter, after⟩ :=
    database.setPosition state key member point typed accepted
  refine ⟨agrees.step rfl (fun _ => .of_setPositions _) (.of_positions used ⟨typedAfter,
    fun other => ?_⟩), fine⟩
  rw [after, located, Store.position?_setPosition]
  by_cases same : other = member <;> simp [same]

theorem Agrees.removePosition (agrees : Agrees database use state store)
    (used : use key = .positions) :
    Agrees database use (database.execute (.removePosition key member) state).2
        (store.removePosition key member) ∧
      (database.execute (.removePosition key member) state).1.isError = false := by
  obtain ⟨typed, located⟩ := (agrees key).positions used
  obtain ⟨fine, typedAfter, after⟩ := database.removePosition state key member typed
  refine ⟨agrees.step rfl (fun _ => .of_setPositions _) (.of_positions used ⟨typedAfter,
    fun other => ?_⟩), fine⟩
  rw [after, located, Store.position?_removePosition]
  by_cases same : other = member <;> simp [same]

end Commands

/-! ## Part 4 — blocks -/

/-- Some commands turn what agrees with one store into what agrees with another, and none fails. -/
def Runs (database : Database) (use : Bytes → Use) (commands : List Command)
    (store after : Store) : Prop :=
  ∀ state, Agrees database use state store →
    Agrees database use (database.after commands state) after ∧
      ∀ reply ∈ (database.executeAll commands state).1, reply.isError = false

namespace Runs

variable {database : Database} {use : Bytes → Use} {commands more : List Command}
  {command : Command} {store middle after : Store}

theorem nil (store : Store) : Runs database use [] store store :=
  fun _ agrees => ⟨agrees, fun _ listed => nomatch listed⟩

theorem single (step : ∀ state, Agrees database use state store →
      Agrees database use (database.execute command state).2 after ∧
        (database.execute command state).1.isError = false) :
    Runs database use [command] store after := by
  intro state agrees
  obtain ⟨kept, fine⟩ := step state agrees
  refine ⟨kept, fun reply listed => ?_⟩
  rw [List.mem_singleton.mp listed]
  exact fine

theorem append (first : Runs database use commands store middle)
    (second : Runs database use more middle after) :
    Runs database use (commands ++ more) store after := by
  intro state agrees
  obtain ⟨kept, fine⟩ := first state agrees
  obtain ⟨keptAfter, fineAfter⟩ := second _ kept
  rw [Server.after_append, Server.executeAll_append]
  exact ⟨keptAfter, fun reply listed => (List.mem_append.mp listed).elim (fine reply)
    (fineAfter reply)⟩

/-- Items that are carried out one after the other. -/
theorem flatMap {α : Type} {items : List α} {run : α → List Command} {step : Store → α → Store}
    (each : ∀ item ∈ items, ∀ store, Runs database use (run item) store (step store item))
    (store : Store) : Runs database use (items.flatMap run) store (items.foldl step store) := by
  induction items generalizing store with
  | nil => exact nil store
  | cons item items ih =>
    rw [List.forall_mem_cons] at each
    exact (each.1 store).append (ih each.2 _)

end Runs

section Blocks

variable {database : Database} {use : Bytes → Use} {store : Store} {keyspace : Keyspace}
  {id key : Bytes}

theorem runs_leaveSets {stale : List Bytes} (listed : ∀ key ∈ stale, use key = .ids)
    (store : Store) : Runs database use (Exchange.leaveSets id stale) store
      (stale.foldl (fun store key => store.removeMember key id) store) := by
  rw [Exchange.leaveSets, ← List.flatMap_pure_eq_map]
  refine Runs.flatMap (fun key named store => Runs.single fun state agrees => ?_) store
  obtain ⟨kept, replied⟩ := agrees.removeMember (.inl (listed key named))
  rw [replied]
  exact ⟨kept, rfl⟩

theorem runs_dropSet (used : use key = .list) (store : Store) :
    Runs database use [.drop key] store (store.dropSet key) :=
  Runs.single fun _ agrees => agrees.dropSet (.inr used)

theorem runs_dropFields (used : use key = .fields) (store : Store) :
    Runs database use [.drop key] store (store.dropFields key) := by
  refine Runs.single fun state agrees => ?_
  obtain ⟨kept, replied⟩ := agrees.dropFields used
  rw [replied]
  exact ⟨kept, rfl⟩

/-- Fields are replaced by dropping them first. -/
theorem runs_storeFields (used : use (keyspace.entityKey id) = .fields) (fields : Fields)
    (store : Store) :
    Runs database use ([.drop (keyspace.entityKey id)] ++
        if fields.isEmpty then [] else [.setFields (keyspace.entityKey id) fields])
      store (store.storeFields keyspace id fields) := by
  refine (runs_dropFields used store).append ?_
  unfold Store.storeFields
  dsimp only
  by_cases none : fields.isEmpty
  · rw [if_pos none, if_pos none]
    exact Runs.nil _
  · have replaced : store.setFields (keyspace.entityKey id) fields =
        (store.dropFields (keyspace.entityKey id)).setFields (keyspace.entityKey id) fields := by
      refine Store.ext (ByteMap.ext_get? fun key => ?_) rfl rfl
      simp only [Store.setFields, Store.dropFields, ByteMap.get?_insert, ByteMap.get?_erase]
      split <;> rfl
    have bare : (store.dropFields (keyspace.entityKey id)).fieldsAt (keyspace.entityKey id) = ∅ :=
      (Store.fieldsAt_dropFields ..).trans (if_pos rfl)
    rw [if_neg none, if_neg none, replaced]
    exact Runs.single fun _ agrees => agrees.setFields used (Bool.eq_false_iff.mpr none) bare

theorem runs_enterSet {entry : IndexEntry}
    (indexed : use (keyspace.indexKey entry.path entry.value.bytes) = .ids)
    (listed : use (keyspace.helperKey id) = .list) (store : Store) :
    Runs database use (Exchange.enterSet keyspace id entry) store
      (Store.enterSet keyspace id store entry) :=
  (Runs.single fun _ agrees => agrees.addMember (.inl indexed)).append
    (Runs.single fun _ agrees => agrees.addMember (.inr ⟨listed, indexed⟩))

theorem runs_enterPosition {entry : PositionEntry}
    (used : use (keyspace.geoKey entry.path) = .positions)
    (accepted : ∀ point, entry.point = some point → database.Accepts point) (store : Store) :
    Runs database use (Exchange.enterPosition keyspace id entry) store
      (Store.enterPosition keyspace id store entry) := by
  have left : Runs database use [.removePosition (keyspace.geoKey entry.path) id] store
      (store.removePosition (keyspace.geoKey entry.path) id) :=
    Runs.single fun _ agrees => agrees.removePosition used
  unfold Exchange.enterPosition Store.enterPosition
  cases point : entry.point with
  | none => exact left
  | some point =>
    refine left.append (Runs.single fun _ agrees => agrees.setPosition used (accepted _ ‹_›))

/-- The members of a set after an id has left some sets, where no members are no set. -/
theorem get?_sets_foldl_removeMember (keys : List Bytes) (store : Store) (place : Bytes) :
    (keys.foldl (fun store key => store.removeMember key id) store).sets.get? place =
      if place ∈ keys then
        (if ((store.members place).erase id).isEmpty then none
          else some ((store.members place).erase id))
      else store.sets.get? place := by
  induction keys generalizing store with
  | nil => rfl
  | cons key keys ih =>
    have again : ((store.members key).erase id).erase id = (store.members key).erase id :=
      InsertionSet.ext (by simp)
    have sets : (store.removeMember key id).sets.get? place =
        if place = key then
          (if ((store.members key).erase id).isEmpty then none
            else some ((store.members key).erase id))
        else store.sets.get? place := by
      rw [Store.removeMember, Store.setMembers]
      dsimp only
      split
      · rw [ByteMap.get?_erase]
      · rw [ByteMap.get?_insert]
    rw [List.foldl_cons, ih, sets, Store.removeMember, Store.members_setMembers]
    by_cases here : place = key
    · subst here
      simp [again]
    · simp [here]

theorem fields_foldl_removeMember (keys : List Bytes) (store : Store) :
    (keys.foldl (fun store key => store.removeMember key id) store).fields = store.fields := by
  refine Store.foldl_view Store.fields ?_ keys store
  exact fun _ _ => rfl

theorem positions_foldl_removeMember (keys : List Bytes) (store : Store) :
    (keys.foldl (fun store key => store.removeMember key id) store).positions =
      store.positions := by
  refine Store.foldl_view Store.positions ?_ keys store
  exact fun _ _ => rfl

/-- In which order an id leaves some sets makes no difference. -/
theorem foldl_removeMember_congr {keys others : List Bytes}
    (same : ∀ key, key ∈ keys ↔ key ∈ others) (store : Store) :
    keys.foldl (fun store key => store.removeMember key id) store =
      others.foldl (fun store key => store.removeMember key id) store := by
  refine Store.ext ?_ (ByteMap.ext_get? fun place => ?_) ?_
  · exact (fields_foldl_removeMember keys store).trans (fields_foldl_removeMember others store).symm
  · rw [get?_sets_foldl_removeMember, get?_sets_foldl_removeMember, if_congr (same place) rfl rfl]
  · exact (positions_foldl_removeMember keys store).trans
      (positions_foldl_removeMember others store).symm

/-- The list of an entity may go before or after its positions. -/
theorem dropSet_foldl_removePosition (paths : List String) (store : Store) :
    (paths.foldl (fun store path => store.removePosition (keyspace.geoKey path) id)
        store).dropSet key =
      paths.foldl (fun store path => store.removePosition (keyspace.geoKey path) id)
        (store.dropSet key) := by
  induction paths generalizing store with
  | nil => rfl
  | cons path paths ih => exact ih (store.removePosition (keyspace.geoKey path) id)

end Blocks

section Updates

variable {database : Database} {use : Bytes → Use} {store : Store} {keyspace : Keyspace}
  {id : Bytes} {write : Write} {stale : List Bytes} {paths : List String}

/-- An entity leaves its sets, in whatever order they are named. -/
theorem runs_leaveAll (list : use (keyspace.helperKey id) = .list)
    (ids : ∀ key ∈ stale, use key = .ids)
    (lists : ∀ key, key ∈ stale ↔ key ∈ store.members (keyspace.helperKey id)) :
    Runs database use (Exchange.leaveSets id stale ++ [.drop (keyspace.helperKey id)]) store
      (store.leaveSets keyspace id) := by
  have left : stale.foldl (fun store key => store.removeMember key id) store =
      (store.members (keyspace.helperKey id)).toList.foldl
        (fun store key => store.removeMember key id) store :=
    foldl_removeMember_congr lists store
  have gone : Runs database use (Exchange.leaveSets id stale) store _ := runs_leaveSets ids store
  rw [left] at gone
  exact gone.append (runs_dropSet list _)

/-- **The block that writes an entity.** -/
theorem runs_put (fits : (Update.put write).Fits use database.Accepts)
    (ids : ∀ key ∈ stale, use key = .ids)
    (lists : ∀ key, key ∈ stale ↔ key ∈ store.members (write.keyspace.helperKey write.id)) :
    Runs database use (Exchange.putCommands write stale) store (store.put write) := by
  have left : Runs database use (Exchange.leaveSets write.id stale ++
      [.drop (write.keyspace.helperKey write.id)]) store
      (store.leaveSets write.keyspace write.id) := runs_leaveAll fits.list ids lists
  have stored : ∀ store, Runs database use ([.drop (write.keyspace.entityKey write.id)] ++
      if write.record.fields.isEmpty then []
      else [.setFields (write.keyspace.entityKey write.id) write.record.fields]) store
      (store.storeFields write.keyspace write.id write.record.fields) :=
    runs_storeFields fits.fields write.record.fields
  have registered : ∀ store, Runs database use
      [.addMember write.keyspace.registryKey write.id] store
      (store.addMember write.keyspace.registryKey write.id) :=
    fun store => Runs.single fun _ agrees => agrees.addMember (.inl fits.registry)
  have entered : ∀ store, Runs database use
      (write.indexes.flatMap (Exchange.enterSet write.keyspace write.id)) store
      (write.indexes.foldl (Store.enterSet write.keyspace write.id) store) :=
    Runs.flatMap fun entry listed => runs_enterSet
      (fits.indexes _ (List.mem_map.mpr ⟨entry, listed, rfl⟩)) fits.list
  have placed : ∀ store, Runs database use
      (write.positions.flatMap (Exchange.enterPosition write.keyspace write.id)) store
      (write.positions.foldl (Store.enterPosition write.keyspace write.id) store) :=
    Runs.flatMap fun entry listed => runs_enterPosition
      (fits.positions _ (List.mem_map.mpr ⟨entry, listed, rfl⟩)) (fits.points entry listed)
  have whole := (((left.append (stored _)).append (registered _)).append (entered _)).append
    (placed _)
  simp only [List.append_assoc, List.cons_append, List.nil_append] at whole
  simp only [Exchange.putCommands, List.append_assoc, List.cons_append, List.nil_append]
  exact whole

/-- **The start of the block that removes an entity.** -/
theorem runs_withdraw (fits : (Update.delete keyspace id paths).Fits use database.Accepts)
    (ids : ∀ key ∈ stale, use key = .ids)
    (lists : ∀ key, key ∈ stale ↔ key ∈ store.members (keyspace.helperKey id)) :
    Runs database use (Exchange.withdrawCommands keyspace id paths stale) store
      (store.withdraw keyspace id paths) := by
  have left : stale.foldl (fun store key => store.removeMember key id) store =
      (store.members (keyspace.helperKey id)).toList.foldl
        (fun store key => store.removeMember key id) store :=
    foldl_removeMember_congr lists store
  have gone : Runs database use (Exchange.leaveSets id stale) store _ := runs_leaveSets ids store
  have settled : ∀ path ∈ paths, use (keyspace.geoKey path) = .positions := by
    intro path listed
    refine fits.positions path ?_
    simpa [Update.paths, Update.moves] using listed
  have unplaced : ∀ store, Runs database use
      (paths.map fun path => .removePosition (keyspace.geoKey path) id) store
      (paths.foldl (fun store path => store.removePosition (keyspace.geoKey path) id) store) := by
    rw [← List.flatMap_pure_eq_map]
    exact Runs.flatMap fun path listed store =>
      Runs.single fun _ agrees => agrees.removePosition (settled path listed)
  have whole := (gone.append (unplaced _)).append (runs_dropSet fits.list _)
  rw [left] at whole
  have withdrawn : store.withdraw keyspace id paths = _ :=
    (dropSet_foldl_removePosition paths _).symm
  rw [withdrawn]
  exact whole

end Updates

end SecondaryIndex
