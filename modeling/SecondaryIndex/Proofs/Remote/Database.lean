/-
**A remote store with all its kinds of content.**

A `Server` is known by its sets alone. A `Database` is one of which it is also documented what the
commands on fields and on positions do, and what the commands reply:

* `Line` — a line to a server, open or not yet; `Server.serve` answers a call of a store by trips;
* `Server.perform` and `Server.performAll` — updates over a line, with what they answer;
* `Database.Fresh` — a state without any key;
* `Table.database` — a machine of this kind.
-/

import SecondaryIndex.Proofs.Collections
import SecondaryIndex.Proofs.Remote.Block

namespace SecondaryIndex

namespace Remote

/-! ## Part 1 — databases -/

/-- Fields and values as words, each field with its value behind it. -/
def wordsOf (pairs : List (Bytes × Bytes)) : List Bytes :=
  pairs.flatMap fun (field, value) => [field, value]

/-- A server that is also seen through the fields and the positions that it keeps. -/
structure Database extends Server where
  /-- There is something at the key. -/
  Exists : State → Bytes → Prop
  /-- There are fields at the key, or nothing. -/
  HasFields : State → Bytes → Prop
  /-- The fields at the key. -/
  fieldsOf : State → Bytes → Fields
  /-- There are positions at the key, or nothing. -/
  HasPositions : State → Bytes → Prop
  /-- The member has a position at the key. -/
  Located : State → Bytes → Bytes → Prop
  /-- A position can be at the point. -/
  Accepts : Point → Prop
  /-- A command leaves the keys alone that it does not name. -/
  leave : ∀ command state key, command.target? ≠ some key →
    (Exists (execute command state).2 key ↔ Exists state key) ∧
      (HasFields (execute command state).2 key ↔ HasFields state key) ∧
      fieldsOf (execute command state).2 key = fieldsOf state key ∧
      (HasPositions (execute command state).2 key ↔ HasPositions state key) ∧
      ∀ member, Located (execute command state).2 key member ↔ Located state key member
  /-- The size of a set is the number of its members. -/
  size : ∀ state key, HasSet state key → ∃ listed : List Bytes, listed.Nodup ∧
    (∀ member, member ∈ listed ↔ Member state key member) ∧
    execute (.size key) state = (.integer listed.length, state)
  /-- An intersection lists the members that all sets have. -/
  intersect : ∀ state keys, keys ≠ [] → (∀ key ∈ keys, HasSet state key) →
    ∃ listed : List Bytes, (∀ member, member ∈ listed ↔ ∀ key ∈ keys, Member state key member) ∧
      execute (.intersect keys) state = (.array (listed.map .bytes), state)
  /-- A union lists the members that any set has. -/
  union : ∀ state keys, keys ≠ [] → (∀ key ∈ keys, HasSet state key) →
    ∃ listed : List Bytes, (∀ member, member ∈ listed ↔ ∃ key ∈ keys, Member state key member) ∧
      execute (.union keys) state = (.array (listed.map .bytes), state)
  /-- Fields are listed in some order, each with its value behind it. -/
  read : ∀ state key, HasFields state key → ∃ pairs : List (Bytes × Bytes),
    (pairs.map Prod.fst).Nodup ∧
      (∀ field value, (field, value) ∈ pairs ↔ (fieldsOf state key).get? field = some value) ∧
      execute (.fieldsAt key) state =
        (.array ((wordsOf pairs).map .bytes), state)
  addReply : ∀ state key member, HasSet state key →
    (execute (.addMember key member) state).1.isError = false
  /-- A removal replies whether the set had the member. -/
  removeReply : ∀ state key member, HasSet state key →
    (Member state key member → (execute (.removeMember key member) state).1 = .integer 1) ∧
      (¬ Member state key member → (execute (.removeMember key member) state).1 = .integer 0)
  /-- A drop replies whether there was something. -/
  dropReply : ∀ state key, (Exists state key → (execute (.drop key) state).1 = .integer 1) ∧
    (¬ Exists state key → (execute (.drop key) state).1 = .integer 0)
  dropFields : ∀ state key, ¬ Exists (execute (.drop key) state).2 key ∧
    HasFields (execute (.drop key) state).2 key ∧ fieldsOf (execute (.drop key) state).2 key = ∅
  /-- New fields replace those of the same name. -/
  setFields : ∀ state key fields, HasFields state key → fields.isEmpty = false →
    (execute (.setFields key fields) state).1.isError = false ∧
      Exists (execute (.setFields key fields) state).2 key ∧
      HasFields (execute (.setFields key fields) state).2 key ∧
      ∀ field, (fieldsOf (execute (.setFields key fields) state).2 key).get? field =
        (fields.get? field).or ((fieldsOf state key).get? field)
  setPosition : ∀ state key member point, HasPositions state key → Accepts point →
    (execute (.setPosition key member point) state).1.isError = false ∧
      HasPositions (execute (.setPosition key member point) state).2 key ∧
      ∀ other, Located (execute (.setPosition key member point) state).2 key other ↔
        other = member ∨ Located state key other
  removePosition : ∀ state key member, HasPositions state key →
    (execute (.removePosition key member) state).1.isError = false ∧
      HasPositions (execute (.removePosition key member) state).2 key ∧
      ∀ other, Located (execute (.removePosition key member) state).2 key other ↔
        other ≠ member ∧ Located state key other

/-- There is nothing at any key. -/
structure Database.Fresh (database : Database) (state : database.State) : Prop where
  sets : ∀ key, database.HasSet state key ∧ ∀ member, ¬ database.Member state key member
  fields : ∀ key, ¬ database.Exists state key ∧ database.HasFields state key ∧
    database.fieldsOf state key = ∅
  positions : ∀ key, database.HasPositions state key ∧
    ∀ member, ¬ database.Located state key member

/-! ## Part 2 — lines -/

/-- A line to a server. -/
structure Line (server : Server) where
  /-- The server has been reached. -/
  opened : Bool
  state : server.State

/-- The trip is the one that reaches the store. -/
def Transmission.opens : Transmission → Bool
  | .opening => true
  | _ => false

namespace Server

/-- Makes a trip. -/
def carry (server : Server) (transmission : Transmission) (line : Line server) :
    Except StoreError transmission.Answer × Line server :=
  let (outcome, state) := server.trip line.opened transmission line.state
  (outcome, ⟨line.opened || transmission.opens, state⟩)

/-- Answers by trips. -/
def hold {α : Type} (server : Server) (exchange : Exchange α) (line : Line server) :
    Except StoreError α × Line server :=
  exchange.run server.carry (fun _ line => line) line

/-- Answers a call of a store. -/
def serve (server : Server) (label : String) (request : Request) (line : Line server) :
    Except StoreError request.Answer × Line server :=
  server.hold (Exchange.reply label request) line

/-- Makes an update. A removal answers what became of it. -/
def perform (server : Server) (label : String) (line : Line server) (update : Update) :
    Except StoreError (Option DeleteStatus) × Line server :=
  let (outcome, line) := server.serve label update.request line
  (outcome.map update.status?, line)

/-- Makes updates one after the other. -/
def performAll (server : Server) (label : String) :
    History → Line server → List (Except StoreError (Option DeleteStatus)) × Line server
  | [], line => ([], line)
  | update :: rest, line =>
    let (outcome, line) := server.perform label line update
    let (outcomes, line) := performAll server label rest line
    (outcome :: outcomes, line)

section Holding

variable {server : Server} {α β : Type} {exchange : Exchange α} {next : α → Exchange β}
  {line later : Line server} {value : α} {command : Command} {listed : List Bytes}

theorem hold_bind_ok (first : server.hold exchange line = (.ok value, later)) :
    server.hold (exchange.bind next) line = server.hold (next value) later :=
  Dialogue.run_bind_ok first

/-- A line that is not open yet is opened. -/
theorem hold_connect (line : Line server) :
    server.hold Exchange.connect line = (.ok (), ⟨true, line.state⟩) := by
  obtain ⟨opened, state⟩ := line
  cases opened <;> rfl

/-- A single trip that does not reach for the server leaves the line as open as it was. -/
theorem hold_send {transmission : Transmission} {answer : transmission.Answer}
    {state : server.State} (closed : transmission.opens = false)
    (tripped : server.trip line.opened transmission line.state = (.ok answer, state)) :
    server.hold (send transmission) line = (.ok answer, ⟨line.opened, state⟩) := by
  have carried : server.carry transmission line = (.ok answer, ⟨line.opened, state⟩) := by
    rw [carry, tripped]
    show (_, (⟨line.opened || transmission.opens, state⟩ : Line server)) = _
    rw [closed, Bool.or_false]
  rw [hold, send, Dialogue.request, Dialogue.run, carried]
  rfl

theorem hold_single {reply : Reply}
    (executed : server.execute command line.state = (reply, line.state))
    (fine : reply.isError = false) :
    server.hold (send (.single command)) line = (.ok reply, line) := by
  refine hold_send rfl ?_
  show (accepted (server.execute command line.state).1,
    (server.execute command line.state).2) = _
  rw [executed, accepted, fine]
  rfl

theorem hold_list
    (executed : server.execute command line.state = (.array (listed.map .bytes), line.state)) :
    server.hold (Exchange.list command) line = (.ok listed, line) := by
  refine (hold_bind_ok (hold_single executed rfl)).trans ?_
  rw [Reply.members?_array]
  rfl

theorem not_any_isError {replies : List Reply} (fine : ∀ reply ∈ replies, reply.isError = false) :
    replies.any Reply.isError = false :=
  List.any_eq_false.mpr fun reply listed => Bool.eq_false_iff.mp (fine reply listed)

/-- Commands that are sent together and change nothing are answered one by one. -/
theorem hold_pipeline {commands : List Command} {replies : List Reply}
    (executed : server.executeAll commands line.state = (replies, line.state))
    (fine : ∀ reply ∈ replies, reply.isError = false) :
    server.hold (send (.pipeline commands)) line = (.ok replies, line) := by
  refine hold_send rfl ?_
  show (acceptedAll (server.executeAll commands line.state).1,
    (server.executeAll commands line.state).2) = _
  rw [executed, acceptedAll, not_any_isError fine]
  rfl

/-- A block whose commands have all their words is answered with all their replies. -/
theorem hold_block {commands : List Command}
    (complete : ∀ command ∈ commands, command.complete) (line : Line server) :
    server.hold (send (.block commands)) line =
      (.ok (.array (server.executeAll commands line.state).1),
        ⟨line.opened, server.after commands line.state⟩) := by
  refine hold_send rfl ?_
  show (accepted (server.block commands line.state).1, (server.block commands line.state).2) = _
  rw [block, if_pos (List.all_eq_true.mpr complete)]
  rfl

theorem executeAll_append (first second : List Command) (state : server.State) :
    (server.executeAll (first ++ second) state).1 =
      (server.executeAll first state).1 ++
        (server.executeAll second (server.after first state)).1 := by
  induction first generalizing state with
  | nil => rfl
  | cons command first ih =>
    exact congrArg ((server.execute command state).1 :: ·) (ih (server.execute command state).2)

theorem length_executeAll (commands : List Command) (state : server.State) :
    (server.executeAll commands state).1.length = commands.length := by
  induction commands generalizing state with
  | nil => rfl
  | cons command commands ih => exact congrArg (· + 1) (ih (server.execute command state).2)

end Holding

end Server

theorem Reply.pairs?_wordsOf (pairs : List (Bytes × Bytes)) :
    Reply.pairs? (wordsOf pairs) = some pairs := by
  induction pairs with
  | nil => rfl
  | cons pair pairs ih =>
    show (Reply.pairs? (wordsOf pairs)).map (pair :: ·) = _
    rw [ih]
    rfl

/-- Fields that are listed in any order are read as what they are. -/
theorem Reply.fields?_wordsOf {pairs : List (Bytes × Bytes)} {fields : Fields}
    (nodup : (pairs.map Prod.fst).Nodup)
    (lists : ∀ field value, (field, value) ∈ pairs ↔ fields.get? field = some value) :
    (Reply.array ((wordsOf pairs).map .bytes)).fields? = some fields := by
  rw [fields?, members?_array, Option.bind_eq_bind, Option.bind_some, pairs?_wordsOf,
    Option.bind_eq_bind, Option.bind_some, ByteMap.ofList_eq nodup lists]
  rfl

/-! ## Part 3 — a database -/

namespace Table

variable {table : Table} {key member : Bytes}

theorem positions?_keep (points : InsertionMap Bytes Point) :
    positions? (table.keep key (.positions points) points.isEmpty) key = some points := by
  rw [positions?, get?_keep, if_pos rfl]
  by_cases empty : points.isEmpty
  · rw [if_pos empty, InsertionMap.isEmpty_iff.mp empty]
    rfl
  · rw [if_neg empty]
    rfl

/-- The member has a position at the key. -/
def Located (table : Table) (key member : Bytes) : Prop :=
  ∃ points, table.positions? key = some points ∧ (points.get? member).isSome

theorem located_iff {points : InsertionMap Bytes Point}
    (typed : table.positions? key = some points) :
    table.Located key member ↔ (points.get? member).isSome := by
  rw [Located, typed]
  simp

theorem member_iff {members : InsertionSet Bytes} (typed : table.set? key = some members) :
    table.Member key member ↔ member ∈ members := by
  rw [Member, typed]
  simp

theorem mapM_set?_eq_some {keys : List Bytes} (typed : ∀ key ∈ keys, (table.set? key).isSome) :
    keys.mapM table.set? = some (keys.map fun key => (table.set? key).getD ∅) := by
  induction keys with
  | nil => rfl
  | cons key keys ih =>
    rw [List.forall_mem_cons] at typed
    obtain ⟨members, found⟩ := Option.isSome_iff_exists.mp typed.1
    rw [List.mapM_cons, ih typed.2, found, List.map_cons, found]
    rfl

theorem member_iff_getD (typed : (table.set? key).isSome) :
    table.Member key member ↔ member ∈ (table.set? key).getD ∅ := by
  obtain ⟨members, found⟩ := Option.isSome_iff_exists.mp typed
  rw [member_iff found, found]
  rfl

theorem execute_intersect {keys : List Bytes} (some : keys ≠ [])
    (typed : ∀ key ∈ keys, (table.set? key).isSome) :
    ∃ listed : List Bytes, (∀ member, member ∈ listed ↔ ∀ key ∈ keys, table.Member key member) ∧
      table.execute (.intersect keys) = (.array (listed.map .bytes), table) := by
  rw [execute, mapM_set?_eq_some typed]
  refine ⟨_, fun member => ?_, rfl⟩
  obtain ⟨first, rest, rfl⟩ := List.exists_cons_of_ne_nil some
  have members : ∀ key ∈ first :: rest,
      (table.Member key member ↔ member ∈ (table.set? key).getD ∅) :=
    fun key listed => member_iff_getD (typed key listed)
  simp only [List.map_cons, List.head?_cons, Option.getD_some, List.mem_filter, List.all_cons,
    List.all_map, Bool.and_eq_true, decide_eq_true_eq, List.all_eq_true, Function.comp_apply,
    List.forall_mem_cons]
  rw [members first List.mem_cons_self,
    forall₂_congr fun key listed => members key (List.mem_cons_of_mem _ listed)]
  exact ⟨And.right, fun all => ⟨all.1, all⟩⟩

theorem execute_union {keys : List Bytes} (typed : ∀ key ∈ keys, (table.set? key).isSome) :
    ∃ listed : List Bytes, (∀ member, member ∈ listed ↔ ∃ key ∈ keys, table.Member key member) ∧
      table.execute (.union keys) = (.array (listed.map .bytes), table) := by
  rw [execute, mapM_set?_eq_some typed]
  refine ⟨_, fun member => ?_, rfl⟩
  rw [← InsertionSet.mem_def, InsertionSet.mem_ofList, List.mem_flatMap]
  constructor
  · rintro ⟨set, named, held⟩
    obtain ⟨key, listed, rfl⟩ := List.mem_map.mp named
    exact ⟨key, listed, (member_iff_getD (typed key listed)).mpr held⟩
  · rintro ⟨key, listed, held⟩
    exact ⟨_, List.mem_map.mpr ⟨key, listed, rfl⟩, (member_iff_getD (typed key listed)).mp held⟩

/-- New fields replace those of the same name. -/
theorem execute_setFields {fields held : Fields} (typed : table.fields? key = some held)
    (filled : fields.isEmpty = false) :
    ∃ all : Fields, (table.execute (.setFields key fields)).1.isError = false ∧
      (table.execute (.setFields key fields)).2.get? key = some (.fields all) ∧
      ∀ field, all.get? field = (fields.get? field).or (held.get? field) := by
  have found : ∀ field, (fields.entries.foldl (fun all entry => all.insert entry.1 entry.2)
      held).get? field = (fields.get? field).or (held.get? field) :=
    fun field => ByteMap.get?_insertAll fields.nodup_keys held field
  have some : (fields.entries.foldl (fun all entry => all.insert entry.1 entry.2)
      held).isEmpty = false := by
    obtain ⟨⟨field, value⟩, listed⟩ :=
      List.exists_mem_of_ne_nil fields.entries (List.isEmpty_eq_false_iff.mp filled)
    have here := found field
    rw [ByteMap.mem_entries.mp listed, Option.some_or] at here
    exact List.isEmpty_eq_false_iff.mpr (List.ne_nil_of_mem (ByteMap.mem_entries.mpr here))
  rw [execute, typed]
  refine ⟨_, rfl, ?_, found⟩
  show (table.keep key _ _).get? key = _
  rw [get?_keep, if_pos rfl, some]
  rfl

theorem located_execute {command : Command} (unnamed : command.target? ≠ some key) :
    (table.execute command).2.Located key member ↔ table.Located key member := by
  rw [Located, Located, positions?, positions?, get?_execute unnamed]

theorem get?_drop : (table.execute (.drop key)).2.get? key = none := by
  rw [execute, ByteMap.get?_erase, if_pos rfl]

theorem execute_size {members : InsertionSet Bytes} (typed : table.set? key = some members) :
    table.execute (.size key) = (.integer members.toList.length, table) := by
  rw [execute, typed]
  rfl

theorem execute_fieldsAt {fields : Fields} (typed : table.fields? key = some fields) :
    table.execute (.fieldsAt key) = (.array ((wordsOf fields.entries).map .bytes), table) := by
  rw [execute, typed, wordsOf, List.map_flatMap]
  rfl

theorem isError_addMember {members : InsertionSet Bytes} (typed : table.set? key = some members) :
    (table.execute (.addMember key member)).1.isError = false := by
  rw [execute, typed]
  rfl

theorem reply_removeMember {members : InsertionSet Bytes} (typed : table.set? key = some members) :
    (table.execute (.removeMember key member)).1 = counted (member ∈ members) := by
  rw [execute, typed]

theorem execute_setPosition {points : InsertionMap Bytes Point} {point : Point}
    (typed : table.positions? key = some points) (accepted : accepts point) :
    (table.execute (.setPosition key member point)).1.isError = false ∧
      (table.execute (.setPosition key member point)).2.positions? key =
        some (points.insert member point) := by
  rw [execute, typed]
  simp only [accepted, if_true]
  refine ⟨rfl, ?_⟩
  rw [positions?, get?_keep, if_pos rfl]
  rfl

theorem execute_removePosition {points : InsertionMap Bytes Point}
    (typed : table.positions? key = some points) :
    (table.execute (.removePosition key member)).1.isError = false ∧
      (table.execute (.removePosition key member)).2.positions? key =
        some (points.erase member) := by
  rw [execute, typed]
  exact ⟨rfl, positions?_keep _⟩

/-- A database that keeps a table. -/
def database : Database where
  toServer := server
  Exists (table : Table) key := table.contains key
  HasFields (table : Table) key := (table.fields? key).isSome
  fieldsOf (table : Table) key := (table.fields? key).getD ∅
  HasPositions (table : Table) key := (table.positions? key).isSome
  Located := Located
  Accepts point := accepts point
  leave command table key unnamed := by
    have same : ByteMap.get? (execute table command).2 key = ByteMap.get? table key :=
      get?_execute unnamed
    refine ⟨?_, ?_, ?_, ?_, fun member => ?_⟩
    · exact Bool.coe_iff_coe.mpr (congrArg Option.isSome same)
    · exact Bool.coe_iff_coe.mpr (congrArg (fun held => (Content.fields? held).isSome) same)
    · exact congrArg (fun held => (Content.fields? held).getD ∅) same
    · exact Bool.coe_iff_coe.mpr (congrArg (fun held => (Content.positions? held).isSome) same)
    · exact located_execute unnamed
  size table key typed := by
    obtain ⟨members, found⟩ := Option.isSome_iff_exists.mp typed
    exact ⟨members.toList, members.nodup, fun member => (member_iff found).symm,
      execute_size found⟩
  intersect _ _ some typed := execute_intersect some typed
  union _ _ _ typed := execute_union typed
  read table key typed := by
    obtain ⟨fields, found⟩ := Option.isSome_iff_exists.mp typed
    refine ⟨fields.entries, fields.nodup_keys, fun field value => ?_, execute_fieldsAt found⟩
    rw [found]
    exact ByteMap.mem_entries
  addReply table key member typed := by
    obtain ⟨members, found⟩ := Option.isSome_iff_exists.mp typed
    exact isError_addMember found
  removeReply table key member typed := by
    obtain ⟨members, found⟩ := Option.isSome_iff_exists.mp typed
    have replied := @reply_removeMember table key member _ found
    refine ⟨fun held => ?_, fun absent => ?_⟩
    · exact replied.trans (congrArg _ (decide_eq_true ((member_iff found).mp held)))
    · exact replied.trans (congrArg _ (decide_eq_false (mt (member_iff found).mpr absent)))
  dropReply table key := by
    refine ⟨fun there => congrArg counted there, fun absent => ?_⟩
    exact congrArg counted (Bool.eq_false_iff.mpr absent)
  dropFields table key := by
    have gone : ByteMap.get? (execute table (.drop key)).2 key = none := get?_drop
    refine ⟨?_, ?_, ?_⟩
    · exact Bool.eq_false_iff.mp (congrArg Option.isSome gone)
    · exact congrArg (fun held => (Content.fields? held).isSome) gone
    · exact congrArg (fun held => (Content.fields? held).getD ∅) gone
  setFields table key fields typed filled := by
    obtain ⟨held, found⟩ := Option.isSome_iff_exists.mp typed
    obtain ⟨all, replied, there, got⟩ := execute_setFields found filled
    refine ⟨replied, ?_, ?_, fun field => ?_⟩
    · exact congrArg Option.isSome there
    · exact congrArg (fun held => (Content.fields? held).isSome) there
    · have after : (fields? (execute table (.setFields key fields)).2 key).getD ∅ = all :=
        congrArg (fun held => (Content.fields? held).getD ∅) there
      rw [found]
      exact (congrArg (ByteMap.get? · field) after).trans (got field)
  setPosition table key member point typed accepted := by
    obtain ⟨points, found⟩ := Option.isSome_iff_exists.mp typed
    obtain ⟨replied, there⟩ := @execute_setPosition table key member _ _ found accepted
    refine ⟨replied, Option.isSome_iff_exists.mpr ⟨_, there⟩, fun other => ?_⟩
    rw [located_iff found]
    refine (located_iff there).trans ?_
    rw [InsertionMap.get?_insert]
    split <;> simp [*]
  removePosition table key member typed := by
    obtain ⟨points, found⟩ := Option.isSome_iff_exists.mp typed
    obtain ⟨replied, there⟩ := @execute_removePosition table key member _ found
    refine ⟨replied, Option.isSome_iff_exists.mpr ⟨_, there⟩, fun other => ?_⟩
    rw [located_iff found]
    refine (located_iff there).trans ?_
    rw [InsertionMap.get?_erase]
    split <;> simp [*]

/-- A table without keys. -/
theorem fresh_empty : database.Fresh (∅ : Table) where
  sets _ := ⟨rfl, fun _ => not_member_empty⟩
  fields _ := ⟨Bool.false_ne_true, rfl, rfl⟩
  positions _ := ⟨rfl, by rintro member ⟨points, found, there⟩; cases found; cases there⟩

end Table

end Remote

end SecondaryIndex
