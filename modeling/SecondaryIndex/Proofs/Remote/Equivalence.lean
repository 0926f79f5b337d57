/-
**A remote store and one in the same process come to the same.**

* `Agrees.perform` — an update over a line keeps the agreement, and the same becomes of it;
* `Agrees.sameAnswers` — where content agrees, questions are answered the same;
* `same_after_updates` — after any updates from nothing, statuses, content and answers are the same.
-/

import SecondaryIndex.Proofs.Remote.Agreement

namespace SecondaryIndex

open Remote

/-! ## Part 1 — updates over a line -/

section Lines

variable {database : Database} {use : Bytes → Use} {store : Store} {keyspace : Keyspace}
  {id : Bytes} {write : Write} {paths : List String} {update : Update}
  {line : Line database.toServer}

open Server

/-- The list of an entity is read as the store has it, and it names sets of ids. -/
theorem exists_stale {state : database.State} (agrees : Agrees database use state store)
    (used : use (keyspace.helperKey id) = .list) :
    ∃ stale, database.hold (Exchange.list (.members (keyspace.helperKey id))) ⟨true, state⟩ =
        (.ok stale, ⟨true, state⟩) ∧
      (∀ key ∈ stale, use key = .ids) ∧
      ∀ key, key ∈ stale ↔ key ∈ store.members (keyspace.helperKey id) := by
  obtain ⟨typed, members⟩ := (agrees _).set (.inr used)
  obtain ⟨stale, executed, lists⟩ := database.list state _ typed
  have same : ∀ key, key ∈ stale ↔ key ∈ store.members (keyspace.helperKey id) :=
    fun key => (lists key).trans (members key)
  exact ⟨stale, hold_list executed,
    fun key listed => (agrees _).list used key ((same key).mp listed), same⟩

/-- **An entity is written** as the store writes it. -/
theorem hold_put (label : String) (agrees : Agrees database use line.state store)
    (fits : (Update.put write).Fits use database.Accepts) :
    ∃ state, database.hold (Exchange.put label write) line = (.ok (), ⟨true, state⟩) ∧
      Agrees database use state (store.put write) := by
  obtain ⟨stale, read, ids, lists⟩ := exists_stale agrees fits.list
  obtain ⟨kept, fine⟩ := runs_put fits ids lists line.state agrees
  have complete : ∀ command ∈ (Update.put write).transaction stale, command.complete :=
    fun command => Update.complete_of_mem_transaction
  refine ⟨_, ?_, kept⟩
  refine (hold_bind_ok (hold_connect line)).trans ((hold_bind_ok read).trans
    ((hold_bind_ok (hold_block complete _)).trans ?_))
  rw [Exchange.acknowledged, Update.transaction, not_any_isError fine]
  rfl

theorem count?_counted (happened : Bool) :
    (Table.counted happened).count? = some (if happened then 1 else 0) := by
  cases happened <;> rfl

/-- The two numbers at the end of the replies to a block. -/
theorem removed_append {replies : List Reply} (fine : ∀ reply ∈ replies, reply.isError = false)
    (registered existed : Bool) :
    Exchange.removed replies.length
        (.array (replies ++ [Table.counted registered, Table.counted existed])) =
      some (if registered then 1 else 0, if existed then 1 else 0) := by
  have none : (replies ++ [Table.counted registered, Table.counted existed]).any Reply.isError =
      false := by
    rw [List.any_append, not_any_isError fine]
    rfl
  rw [Exchange.removed, none, if_neg Bool.false_ne_true, List.drop_left]
  simp only [count?_counted]
  rfl

theorem status_eq (removal : Store.Removal) :
    (if 0 < (if removal.registered then 1 else 0) ∨ 0 < (if removal.existed then 1 else 0) then
      DeleteStatus.deleted else .missing) = removal.status := by
  obtain ⟨registered, existed⟩ := removal
  cases registered <;> cases existed <;> rfl

/-- **An entity is removed** as the store removes it, and the same becomes of it. -/
theorem hold_delete (label : String) (agrees : Agrees database use line.state store)
    (fits : (Update.delete keyspace id paths).Fits use database.Accepts) :
    ∃ state, database.hold (Exchange.delete label keyspace id paths) line =
        (.ok (store.removal keyspace id paths).status, ⟨true, state⟩) ∧
      Agrees database use state (store.delete keyspace id paths) := by
  obtain ⟨stale, read, ids, lists⟩ := exists_stale agrees fits.list
  obtain ⟨withdrawn, fine⟩ := runs_withdraw fits ids lists line.state agrees
  obtain ⟨unregistered, registered⟩ := withdrawn.removeMember (.inl fits.registry)
  obtain ⟨dropped, deleted⟩ := unregistered.dropFields fits.fields
  have complete : ∀ command ∈ (Update.delete keyspace id paths).transaction stale,
      command.complete := fun command => Update.complete_of_mem_transaction
  have replies : (database.executeAll (Exchange.deleteCommands keyspace id paths stale)
      line.state).1 =
        (database.executeAll (Exchange.withdrawCommands keyspace id paths stale) line.state).1 ++
          [Table.counted (store.removal keyspace id paths).registered,
            Table.counted (store.removal keyspace id paths).existed] := by
    rw [Exchange.deleteCommands, executeAll_append]
    exact congrArg _ (congrArg₂ (fun first second => [first, second]) registered deleted)
  have kept : Agrees database use
      (database.after (Exchange.deleteCommands keyspace id paths stale) line.state)
      (store.delete keyspace id paths) := by
    rw [Exchange.deleteCommands, after_append]
    exact dropped
  have counted := removed_append fine (store.removal keyspace id paths).registered
    (store.removal keyspace id paths).existed
  rw [length_executeAll] at counted
  refine ⟨_, ?_, kept⟩
  refine (hold_bind_ok (hold_connect line)).trans ((hold_bind_ok read).trans
    ((hold_bind_ok (hold_block complete _)).trans ?_))
  rw [Update.transaction, replies, counted]
  exact congrArg (fun status => (Except.ok status, _)) (status_eq _)

/-- **An update keeps the agreement**, and the same becomes of it. -/
theorem Agrees.perform (label : String) (agrees : Agrees database use line.state store)
    (fits : update.Fits use database.Accepts) :
    ∃ state, database.perform label line update =
        (.ok (update.status? (store.reply update.request)), ⟨true, state⟩) ∧
      Agrees database use state (update.apply store) := by
  cases update with
  | put write =>
    obtain ⟨state, held, kept⟩ := hold_put label agrees fits
    refine ⟨state, ?_, kept⟩
    show (Except.map _ (database.hold (Exchange.put label write) line).1,
      (database.hold (Exchange.put label write) line).2) = _
    rw [held]
    rfl
  | delete keyspace id paths =>
    obtain ⟨state, held, kept⟩ := hold_delete label agrees fits
    refine ⟨state, ?_, kept⟩
    show (Except.map _ (database.hold (Exchange.delete label keyspace id paths) line).1,
      (database.hold (Exchange.delete label keyspace id paths) line).2) = _
    rw [held]
    rfl

theorem Agrees.performAll (label : String) {history : History}
    (agrees : Agrees database use line.state store)
    (fits : ∀ update ∈ history, update.Fits use database.Accepts) :
    (database.performAll label history line).1 = (statuses history store).map .ok ∧
      Agrees database use (database.performAll label history line).2.state
        (history.foldl (fun store update => update.apply store) store) := by
  induction history generalizing line store with
  | nil => exact ⟨rfl, agrees⟩
  | cons update history ih =>
    rw [List.forall_mem_cons] at fits
    obtain ⟨state, performed, kept⟩ := agrees.perform label fits.1
    have reached : Agrees database use (⟨true, state⟩ : Line database.toServer).state _ := kept
    obtain ⟨outcomes, keptAfter⟩ := ih reached fits.2
    rw [Server.performAll, performed, statuses, List.map_cons, List.foldl_cons]
    exact ⟨congrArg _ outcomes, keptAfter⟩

/-! ## Part 2 — questions -/

/-- A number of members is counted. -/
theorem hold_count (agrees : Agrees database use line.state store)
    (used : use keyspace.registryKey = .ids) :
    database.hold (Exchange.count keyspace) line =
      (.ok (store.count keyspace), ⟨true, line.state⟩) := by
  obtain ⟨typed, members⟩ := (agrees _).set (.inl used)
  obtain ⟨listed, nodup, lists, executed⟩ := database.size line.state _ typed
  have length : listed.length = store.count keyspace :=
    ((List.perm_ext_iff_of_nodup nodup (InsertionSet.nodup _)).mpr fun member =>
      (lists member).trans (members member)).length_eq
  have sized : database.hold (send (.single (.size keyspace.registryKey))) ⟨true, line.state⟩ =
      (.ok (.integer listed.length), ⟨true, line.state⟩) := hold_single executed rfl
  have counted : (Reply.integer listed.length).count? = some listed.length := rfl
  refine (hold_bind_ok (hold_connect line)).trans ((hold_bind_ok sized).trans ?_)
  rw [counted, length]
  rfl

/-- Sets are combined as the command says; nothing comes of no sets. -/
theorem hold_combined {word : String} {command : List Bytes → Command} {keys listed : List Bytes}
    (executed : keys ≠ [] →
      database.execute (command keys) line.state = (.array (listed.map .bytes), line.state)) :
    database.hold (Exchange.combined word command keys) line =
      (.ok (if keys.isEmpty then [] else listed), line) := by
  rw [Exchange.combined]
  by_cases none : keys.isEmpty
  · rw [if_pos none, if_pos none]
    rfl
  · rw [if_neg none, if_neg none]
    exact hold_bind_ok (hold_list (executed fun empty => none (List.isEmpty_iff.mpr empty)))

theorem hold_intersect {keys : List Bytes} (agrees : Agrees database use line.state store)
    (used : ∀ key ∈ keys, use key = .ids) :
    ∃ listed, database.hold (Exchange.combined "SINTER" .intersect keys) line = (.ok listed, line) ∧
      ∀ member, member ∈ listed ↔ member ∈ store.intersect keys := by
  rcases Decidable.em (keys = []) with rfl | some
  · exact ⟨[], rfl, fun _ => Iff.rfl⟩
  have sets := fun key listed => (agrees key).set (.inl (used key listed))
  obtain ⟨listed, lists, executed⟩ :=
    database.intersect line.state keys some fun key named => (sets key named).1
  refine ⟨_, hold_combined fun _ => executed, fun member => ?_⟩
  rw [if_neg (mt List.isEmpty_iff.mp some), lists, Store.mem_intersect some]
  exact forall₂_congr fun key named => (sets key named).2 member

theorem hold_union {keys : List Bytes} (agrees : Agrees database use line.state store)
    (used : ∀ key ∈ keys, use key = .ids) :
    ∃ listed, database.hold (Exchange.combined "SUNION" .union keys) line = (.ok listed, line) ∧
      ∀ member, member ∈ listed ↔ member ∈ store.union keys := by
  rcases Decidable.em (keys = []) with rfl | some
  · exact ⟨[], rfl, fun _ => Iff.rfl⟩
  have sets := fun key listed => (agrees key).set (.inl (used key listed))
  obtain ⟨listed, lists, executed⟩ :=
    database.union line.state keys some fun key named => (sets key named).1
  refine ⟨_, hold_combined fun _ => executed, fun member => ?_⟩
  rw [if_neg (mt List.isEmpty_iff.mp some), lists, Store.mem_union]
  exact exists_congr fun key => and_congr_right fun named => (sets key named).2 member

/-- The replies to questions for fields. -/
theorem exists_replies {keys : List Bytes} (agrees : Agrees database use line.state store)
    (used : ∀ key ∈ keys, use key = .fields) :
    ∃ replies, database.executeAll (keys.map .fieldsAt) line.state = (replies, line.state) ∧
      (∀ reply ∈ replies, reply.isError = false) ∧
      replies.mapM Reply.fields? = some (keys.map store.fieldsAt) := by
  induction keys with
  | nil => exact ⟨[], rfl, fun _ listed => (List.not_mem_nil listed).elim, rfl⟩
  | cons key keys ih =>
    rw [List.forall_mem_cons] at used
    obtain ⟨replies, executed, fine, decoded⟩ := ih used.2
    obtain ⟨_, typed, held⟩ := (agrees key).fields used.1
    obtain ⟨pairs, nodup, lists, read⟩ := database.read line.state key typed
    rw [held] at lists
    refine ⟨.array ((wordsOf pairs).map .bytes) :: replies, ?_,
      List.forall_mem_cons.mpr ⟨rfl, fine⟩, ?_⟩
    · rw [List.map_cons, executeAll, read]
      dsimp only
      rw [executed]
    · rw [List.mapM_cons, Reply.fields?_wordsOf nodup lists, decoded]
      rfl

theorem hold_fieldsOf {keys : List Bytes} (agrees : Agrees database use line.state store)
    (used : ∀ key ∈ keys, use key = .fields) :
    database.hold (Exchange.fieldsOf keys) line = (.ok (keys.map store.fieldsAt), line) := by
  rw [Exchange.fieldsOf]
  by_cases none : keys.isEmpty
  · rw [if_pos none, List.isEmpty_iff.mp none]
    rfl
  · obtain ⟨replies, executed, fine, decoded⟩ := exists_replies agrees used
    rw [if_neg none]
    refine (hold_bind_ok (hold_pipeline executed fine)).trans ?_
    rw [decoded]
    rfl

theorem hold_get (agrees : Agrees database use line.state store)
    (used : use (keyspace.entityKey id) = .fields) :
    database.hold (Exchange.get keyspace id) line =
      (.ok (store.get? keyspace id), ⟨true, line.state⟩) := by
  have fetched : database.hold (Exchange.fieldsOf [keyspace.entityKey id]) ⟨true, line.state⟩ =
      (.ok [store.fieldsAt (keyspace.entityKey id)], ⟨true, line.state⟩) :=
    hold_fieldsOf agrees (List.forall_mem_singleton.mpr used)
  exact (hold_bind_ok (hold_connect line)).trans (hold_bind_ok fetched)

end Lines

/-! ## Part 3 — the two stores -/

/-- A line to a database gives the answers of a store to questions that use keys for what they are.
Sets may be listed in another order. -/
structure SameAnswers (database : Database) (use : Bytes → Use) (label : String)
    (line : Line database.toServer) (store : Store) : Prop where
  count : ∀ keyspace, use keyspace.registryKey = .ids →
    database.serve label (.count keyspace) line =
      (.ok (store.reply (.count keyspace)), ⟨true, line.state⟩)
  get : ∀ keyspace id, use (keyspace.entityKey id) = .fields →
    database.serve label (.get keyspace id) line =
      (.ok (store.reply (.get keyspace id)), ⟨true, line.state⟩)
  fieldsOf : ∀ keys, (∀ key ∈ keys, use key = .fields) →
    database.serve label (.fieldsOf keys) line = (.ok (store.reply (.fieldsOf keys)), line)
  intersect : ∀ keys, (∀ key ∈ keys, use key = .ids) →
    ∃ listed, database.serve label (.intersect keys) line = (.ok listed, line) ∧
      ∀ member, member ∈ listed ↔ member ∈ store.reply (.intersect keys)
  union : ∀ keys, (∀ key ∈ keys, use key = .ids) →
    ∃ listed, database.serve label (.union keys) line = (.ok listed, line) ∧
      ∀ member, member ∈ listed ↔ member ∈ store.reply (.union keys)

section Answers

variable {database : Database} {use : Bytes → Use} {store : Store} {line : Line database.toServer}
  {history : History}

theorem Agrees.sameAnswers (label : String) (agrees : Agrees database use line.state store) :
    SameAnswers database use label line store where
  count _ used := hold_count agrees used
  get _ _ used := hold_get agrees used
  fieldsOf _ used := hold_fieldsOf agrees used
  intersect _ used := hold_intersect agrees used
  union _ used := hold_union agrees used

/-- Nothing agrees with nothing. -/
theorem agrees_empty (fresh : database.Fresh line.state) :
    Agrees database use line.state .empty := by
  intro key
  constructor
  · exact fun _ => ⟨(fresh.sets key).1,
      fun member => iff_of_false ((fresh.sets key).2 member) (InsertionSet.not_mem_empty member)⟩
  · exact fun _ member listed => (InsertionSet.not_mem_empty member listed).elim
  · exact fun _ => ⟨iff_of_false (fresh.fields key).1 Bool.false_ne_true, (fresh.fields key).2⟩
  · exact fun _ => ⟨(fresh.positions key).1,
      fun member => iff_of_false ((fresh.positions key).2 member) Bool.false_ne_true⟩

/-- **A remote store and one in the same process come to the same.** After any updates from nothing,
the same has become of every removal, the same is at every key, and questions are answered the
same. -/
theorem same_after_updates (label : String) (fresh : database.Fresh line.state)
    (fits : ∀ update ∈ history, update.Fits use database.Accepts) :
    (database.performAll label history line).1 = (statuses history .empty).map .ok ∧
      Agrees database use (database.performAll label history line).2.state history.store ∧
      SameAnswers database use label (database.performAll label history line).2 history.store := by
  obtain ⟨outcomes, agrees⟩ := (agrees_empty fresh).performAll label fits
  exact ⟨outcomes, agrees, agrees.sameAnswers label⟩

end Answers

/-- A person with a city that is entered twice, one without fields who moves, and departures. -/
def departures : History :=
  [.put (.ofTexts "persons" "1" [("city", "\"Tear\"")] [("city", "Tear"), ("city", "Tear")]
      [("location", none)]),
    .put (.ofTexts "persons" "2" [] [("city", "Tear"), ("tag", "Tear")]
      [("location", some ⟨1.0, 2.0⟩)]),
    .put (.ofTexts "persons" "1" [("city", "\"Tear\"")] [] [("location", some ⟨3.0, 4.0⟩)]),
    .put (.ofTexts "persons" "2" [] [("city", "Caemlyn")] [("location", none)]),
    .delete ⟨"persons"⟩ (Bytes.ofString "1") ["location"],
    .delete ⟨"persons"⟩ (Bytes.ofString "1") ["location"]]

theorem same_after_departures :
    let line : Line Table.database.toServer := ⟨false, (∅ : Table)⟩
    Table.database.Fresh line.state ∧
      (∀ update ∈ departures, update.Fits departures.use Table.database.Accepts) ∧
      (Table.database.performAll "redis" departures line).1 =
        (statuses departures .empty).map .ok ∧
      Agrees Table.database departures.use
        (Table.database.performAll "redis" departures line).2.state departures.store ∧
      SameAnswers Table.database departures.use "redis"
        (Table.database.performAll "redis" departures line).2 departures.store := by
  intro line
  have apart : departures.KeysApart := ⟨by decide, by decide, by decide⟩
  have near : ∀ update ∈ departures, ∀ entry ∈ update.moves, entry.point.all Table.accepts := by
    decide +kernel
  have fits : ∀ update ∈ departures, update.Fits departures.use Table.database.Accepts := by
    refine fun update listed => apart.fits listed fun entry named point found => ?_
    have accepted := near update listed entry named
    rw [found] at accepted
    exact accepted
  exact ⟨Table.fresh_empty, fits, same_after_updates "redis" Table.fresh_empty fits⟩

example : statuses departures .empty = [none, none, none, none, some .deleted, some .missing] := by
  decide +kernel

end SecondaryIndex
