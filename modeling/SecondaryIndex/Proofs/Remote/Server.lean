/-
**A remote store as its documentation describes it.**

What is behind a line is not part of this library. `Server` is any machine that carries out commands
one at a time and of which a few documented facts are known, all of them about sets:

* reading a set lists its members in some order and changes nothing;
* a command leaves the keys alone that it does not name, and only an addition makes a member;
* additions, removals and drops do what they are called, and what is no set is not made one by them.

Everything else is built on the commands: `Server.block` carries out a block as one step, in which a
command that fails does not keep the others from taking effect, and `Server.trip` is what a
client gets back. `Table.server` is a machine of this kind, with content of one kind at each key.
-/

import SecondaryIndex.Remote.Exchange
import SecondaryIndex.Store.Lookup

namespace SecondaryIndex.Remote

/-! ## Part 1 — commands -/

namespace Command

/-- The key that a command may change. -/
def target? : Command → Option Bytes
  | .addMember key _ => some key
  | .removeMember key _ => some key
  | .drop key => some key
  | .setFields key _ => some key
  | .setPosition key _ _ => some key
  | .removePosition key _ => some key
  | _ => none

/-- The command has all the words that it needs. A block with one that has not is refused. -/
def complete : Command → Bool
  | .intersect keys => !keys.isEmpty
  | .union keys => !keys.isEmpty
  | .setFields _ fields => !fields.isEmpty
  | _ => true

end Command

/-! ## Part 2 — servers -/

/-- A machine that carries out commands, seen through the sets that it keeps. -/
structure Server where
  State : Type
  /-- Carries out a command. -/
  execute : Command → State → Reply × State
  /-- There is a set at the key, or nothing. -/
  HasSet : State → Bytes → Prop
  /-- The set at the key has the member. -/
  Member : State → Bytes → Bytes → Prop
  /-- A set is listed in some order, and stays as it is. -/
  list : ∀ state key, HasSet state key → ∃ listed : List Bytes,
    execute (.members key) state = (.array (listed.map .bytes), state) ∧
      ∀ member, member ∈ listed ↔ Member state key member
  /-- A command leaves the keys alone that it does not name. -/
  frame : ∀ command state key, command.target? ≠ some key →
    (HasSet (execute command state).2 key ↔ HasSet state key) ∧
      ∀ member, Member (execute command state).2 key member ↔ Member state key member
  /-- Only its addition makes a member. -/
  origin : ∀ command state key member, Member (execute command state).2 key member →
    command = .addMember key member ∨ Member state key member
  add : ∀ state key member, HasSet state key →
    HasSet (execute (.addMember key member) state).2 key ∧
      ∀ other, Member (execute (.addMember key member) state).2 key other ↔
        other = member ∨ Member state key other
  remove : ∀ state key member,
    (HasSet state key → HasSet (execute (.removeMember key member) state).2 key) ∧
      ∀ other, Member (execute (.removeMember key member) state).2 key other ↔
        other ≠ member ∧ Member state key other
  drop : ∀ state key, HasSet (execute (.drop key) state).2 key ∧
    ∀ other, ¬ Member (execute (.drop key) state).2 key other

namespace Server

variable (server : Server)

/-- What a block is refused with. -/
def aborted : Reply :=
  .error "EXECABORT Transaction discarded because of previous errors."

/-- Carries out commands one after the other. -/
def executeAll : List Command → server.State → List Reply × server.State
  | [], state => ([], state)
  | command :: rest, state =>
    let (reply, state) := server.execute command state
    let (replies, state) := executeAll rest state
    (reply :: replies, state)

/-- Carries out a block as a whole, or refuses it as a whole. -/
def block (commands : List Command) (state : server.State) : Reply × server.State :=
  if commands.all Command.complete then
    let (replies, state) := server.executeAll commands state
    (.array replies, state)
  else (aborted, state)

/-- A reply that is no error. -/
def accepted (reply : Reply) : Except StoreError Reply :=
  if reply.isError then .error (.internal none) else .ok reply

/-- Replies of which none is an error. -/
def acceptedAll (replies : List Reply) : Except StoreError (List Reply) :=
  if replies.any Reply.isError then .error (.internal none) else .ok replies

/-- Makes a trip over an open line. -/
def trip (opened : Bool) : (transmission : Transmission) → server.State →
    Except StoreError transmission.Answer × server.State
  | .opened, state => (.ok opened, state)
  | .opening, state => (.ok (), state)
  | .single command, state =>
    let (reply, state) := server.execute command state
    (accepted reply, state)
  | .pipeline commands, state =>
    let (replies, state) := server.executeAll commands state
    (acceptedAll replies, state)
  | .block commands, state =>
    let (reply, state) := server.block commands state
    (accepted reply, state)

end Server

theorem Reply.members?_array (members : List Bytes) :
    (Reply.array (members.map .bytes)).members? = some members := by
  rw [Reply.members?]
  induction members with
  | nil => rfl
  | cons member members ih => rw [List.map_cons, List.mapM_cons, ih]; rfl

/-! ## Part 3 — runs of commands -/

/-- The command never leaves something else than a set at the key. -/
def Command.Respects (key : Bytes) : Command → Prop
  | .addMember .. | .removeMember .. | .drop _ => True
  | command => command.target? ≠ some key

/-- A command that keeps a set at the key which it names adds to it, removes from it or drops it. -/
theorem Command.Respects.cases {command : Command} {key : Bytes} (respects : command.Respects key)
    (named : command.target? = some key) :
    (∃ member, command = .addMember key member) ∨ (∃ member, command = .removeMember key member) ∨
      command = .drop key := by
  cases command with
  | addMember place member =>
    cases named
    exact .inl ⟨member, rfl⟩
  | removeMember place member =>
    cases named
    exact .inr (.inl ⟨member, rfl⟩)
  | drop place =>
    cases named
    exact .inr (.inr rfl)
  | _ => exact (respects named).elim

namespace Server

variable {server : Server} {commands first second : List Command} {state : server.State}
  {key member other : Bytes}

/-- The state after a run of commands. -/
abbrev after (server : Server) (commands : List Command) (state : server.State) : server.State :=
  (server.executeAll commands state).2

@[simp] theorem after_cons (command : Command) (commands : List Command) (state : server.State) :
    server.after (command :: commands) state =
      server.after commands (server.execute command state).2 := rfl

theorem after_append (first second : List Command) (state : server.State) :
    server.after (first ++ second) state = server.after second (server.after first state) := by
  induction first generalizing state with
  | nil => rfl
  | cons command first ih => exact ih (server.execute command state).2

/-- A block whose commands have all their words is a run. -/
theorem block_state (complete : ∀ command ∈ commands, command.complete) :
    (server.block commands state).2 = server.after commands state := by
  rw [block, if_pos (List.all_eq_true.mpr complete)]

theorem hasSet_execute {command : Command} (respects : command.Respects key)
    (typed : server.HasSet state key) : server.HasSet (server.execute command state).2 key := by
  by_cases named : command.target? = some key
  · rcases respects.cases named with ⟨member, rfl⟩ | ⟨member, rfl⟩ | rfl
    · exact (server.add state key member typed).1
    · exact (server.remove state key member).1 typed
    · exact (server.drop state key).1
  · exact (server.frame command state key named).1.mpr typed

theorem hasSet_after (respects : ∀ command ∈ commands, command.Respects key)
    (typed : server.HasSet state key) : server.HasSet (server.after commands state) key := by
  induction commands generalizing state with
  | nil => exact typed
  | cons command commands ih =>
    rw [List.forall_mem_cons] at respects
    exact ih respects.2 (hasSet_execute respects.1 typed)

/-- **A member after a run** was there before, or is added by the run. -/
theorem member_of_member_after (held : server.Member (server.after commands state) key member) :
    .addMember key member ∈ commands ∨ server.Member state key member := by
  induction commands generalizing state with
  | nil => exact .inr held
  | cons command commands ih =>
    rcases ih held with added | before
    · exact .inl (List.mem_cons_of_mem _ added)
    · rcases server.origin command state key member before with rfl | before
      · exact .inl List.mem_cons_self
      · exact .inr before

/-- A member stays one unless a command removes it, or may leave something else at the key. -/
theorem member_execute {command : Command} (respects : command.Respects key)
    (kept : command ≠ .removeMember key member) (held : command ≠ .drop key)
    (typed : server.HasSet state key) (before : server.Member state key member) :
    server.Member (server.execute command state).2 key member := by
  by_cases named : command.target? = some key
  · rcases respects.cases named with ⟨added, rfl⟩ | ⟨removed, rfl⟩ | rfl
    · exact ((server.add state key added typed).2 member).mpr (.inr before)
    · refine ((server.remove state key removed).2 member).mpr ⟨?_, before⟩
      rintro rfl
      exact kept rfl
    · exact (held rfl).elim
  · exact ((server.frame command state key named).2 member).mpr before

theorem member_after (respects : ∀ command ∈ commands, command.Respects key)
    (kept : .removeMember key member ∉ commands) (held : .drop key ∉ commands)
    (typed : server.HasSet state key) (before : server.Member state key member) :
    server.Member (server.after commands state) key member := by
  induction commands generalizing state with
  | nil => exact before
  | cons command commands ih =>
    rw [List.forall_mem_cons] at respects
    rw [List.mem_cons, not_or] at kept held
    exact ih respects.2 kept.2 held.2 (hasSet_execute respects.1 typed)
      (member_execute respects.1 (Ne.symm kept.1) (Ne.symm held.1) typed before)

/-- What a run adds and does not remove is a member after it. -/
theorem member_after_of_mem (respects : ∀ command ∈ commands, command.Respects key)
    (kept : .removeMember key member ∉ commands) (held : .drop key ∉ commands)
    (typed : server.HasSet state key) (added : .addMember key member ∈ commands) :
    server.Member (server.after commands state) key member := by
  obtain ⟨first, second, rfl⟩ := List.append_of_mem added
  rw [List.forall_mem_append, List.forall_mem_cons] at respects
  rw [List.mem_append, not_or, List.mem_cons, not_or] at kept held
  have typedThere := hasSet_after respects.1 typed
  have here := server.add (server.after first state) key member typedThere
  rw [after_append, after_cons]
  exact member_after respects.2.2 kept.2.2 held.2.2 here.1 ((here.2 member).mpr (.inl rfl))

/-- What a run removes and does not add is no member after it. -/
theorem not_member_after_of_mem (fresh : .addMember key member ∉ commands)
    (removed : .removeMember key member ∈ commands ∨ .drop key ∈ commands) :
    ¬ server.Member (server.after commands state) key member := by
  intro held
  have split : ∃ command first second, commands = first ++ command :: second ∧
      (command = .removeMember key member ∨ command = .drop key) := by
    rcases removed with listed | listed <;>
      obtain ⟨first, second, equal⟩ := List.append_of_mem listed
    · exact ⟨_, first, second, equal, .inl rfl⟩
    · exact ⟨_, first, second, equal, .inr rfl⟩
  obtain ⟨command, first, second, rfl, which⟩ := split
  rw [List.mem_append, not_or, List.mem_cons, not_or] at fresh
  rw [after_append, after_cons] at held
  have there := (member_of_member_after held).resolve_left fresh.2.2
  rcases which with rfl | rfl
  · exact (((server.remove _ key member).2 member).mp there).1 rfl
  · exact (server.drop _ key).2 member there

end Server

/-! ## Part 4 — a server -/

/-- What is at a key. -/
inductive Content where
  | fields (fields : Fields)
  | set (members : InsertionSet Bytes)
  | positions (points : InsertionMap Bytes Point)

namespace Content

/-- Fields, where no content is none. -/
def fields? : Option Content → Option Fields
  | none => some ∅
  | some (.fields held) => some held
  | some _ => none

/-- A set, where no content is an empty one. -/
def set? : Option Content → Option (InsertionSet Bytes)
  | none => some ∅
  | some (.set members) => some members
  | some _ => none

/-- Positions, where no content is none. -/
def positions? : Option Content → Option (InsertionMap Bytes Point)
  | none => some ∅
  | some (.positions points) => some points
  | some _ => none

end Content

/-- The keys of a server, each with content of one kind. -/
abbrev Table := ByteMap Content

namespace Table

/-- A command came to a key with content of another kind. -/
def wrongType : Reply :=
  .error "WRONGTYPE Operation against a key holding the wrong kind of value"

/-- The fields at a key, unless it has content of another kind. -/
def fields? (table : Table) (key : Bytes) : Option Fields :=
  Content.fields? (table.get? key)

/-- The set at a key, unless it has content of another kind. -/
def set? (table : Table) (key : Bytes) : Option (InsertionSet Bytes) :=
  Content.set? (table.get? key)

/-- The positions at a key, unless it has content of another kind. -/
def positions? (table : Table) (key : Bytes) : Option (InsertionMap Bytes Point) :=
  Content.positions? (table.get? key)

/-- Puts content at a key, or leaves no key if there is nothing in it. -/
def keep (table : Table) (key : Bytes) (content : Content) (none : Bool) : Table :=
  if none then table.erase key else table.insert key content

/-- The number of things that happened. -/
def counted (happened : Bool) : Reply :=
  .integer (if happened then 1 else 0)

/-- Positions are kept between the meridians of the date line and short of the poles. -/
def accepts (point : Point) : Bool :=
  -180 ≤ point.x && point.x ≤ 180 && -85.05112878 ≤ point.y && point.y ≤ 85.05112878

/-- Carries out a command. Members are listed in order of arrival. -/
def execute (table : Table) : Command → Reply × Table
  | .members key =>
    match table.set? key with
    | some members => (.array (members.toList.map .bytes), table)
    | none => (wrongType, table)
  | .size key =>
    match table.set? key with
    | some members => (.integer members.size, table)
    | none => (wrongType, table)
  | .intersect keys =>
    match keys.mapM table.set? with
    | some sets =>
      let all := (sets.head?.getD ∅).toList.filter fun member => sets.all (member ∈ ·)
      (.array (all.map .bytes), table)
    | none => (wrongType, table)
  | .union keys =>
    match keys.mapM table.set? with
    | some sets =>
      let all := InsertionSet.ofList (sets.flatMap (·.toList))
      (.array (all.toList.map .bytes), table)
    | none => (wrongType, table)
  | .within key circle limit =>
    match table.positions? key with
    | some points =>
      let found := reached circle.radius.inMeters limit (Store.measured circle.center points)
      (.array (found.map .bytes), table)
    | none => (wrongType, table)
  | .fieldsAt key =>
    match table.fields? key with
    | some fields =>
      (.array (fields.entries.flatMap fun (field, value) => [.bytes field, .bytes value]), table)
    | none => (wrongType, table)
  | .addMember key member =>
    match table.set? key with
    | some members =>
      (counted (member ∉ members), table.keep key (.set (members.insert member)) false)
    | none => (wrongType, table)
  | .removeMember key member =>
    match table.set? key with
    | some members =>
      let left := members.erase member
      (counted (member ∈ members), table.keep key (.set left) left.isEmpty)
    | none => (wrongType, table)
  | .drop key => (counted (table.contains key), table.erase key)
  | .setFields key fields =>
    match table.fields? key with
    | some held =>
      let all := fields.entries.foldl (fun all entry => all.insert entry.1 entry.2) held
      (.integer (all.size - held.size), table.keep key (.fields all) all.isEmpty)
    | none => (wrongType, table)
  | .setPosition key member point =>
    match table.positions? key with
    | some points =>
      if accepts point then
        let moved := points.insert member point
        (counted (points.get? member).isNone, table.keep key (.positions moved) false)
      else (.error "ERR invalid longitude,latitude pair", table)
    | none => (wrongType, table)
  | .removePosition key member =>
    match table.positions? key with
    | some points =>
      let left := points.erase member
      (counted (points.get? member).isSome, table.keep key (.positions left) left.isEmpty)
    | none => (wrongType, table)

variable {table : Table} {key other member : Bytes}

/-- The set at the key has the member. -/
def Member (table : Table) (key member : Bytes) : Prop :=
  ∃ members, table.set? key = some members ∧ member ∈ members

instance : Decidable (table.Member key member) :=
  decidable_of_iff (member ∈ (table.set? key).getD ∅) (by
    rw [Member]
    cases table.set? key <;> simp)

theorem not_member_empty : ¬ (∅ : Table).Member key member := by
  rintro ⟨members, found, listed⟩
  cases found
  exact InsertionSet.not_mem_empty member listed

theorem set?_erase :
    set? (table.erase key) other = if other = key then some ∅ else table.set? other := by
  rw [set?, ByteMap.get?_erase]
  split <;> rfl

theorem get?_keep (content : Content) (none : Bool) :
    (table.keep key content none).get? other =
      if other = key then (if none then .none else some content) else table.get? other := by
  unfold keep
  split
  · rw [ByteMap.get?_erase]
  · rw [ByteMap.get?_insert]

/-- A command leaves the keys alone that it does not name. -/
theorem get?_execute {command : Command} (unnamed : command.target? ≠ some key) :
    (table.execute command).2.get? key = table.get? key := by
  have different : ∀ {target : Bytes}, some target ≠ some key → key ≠ target :=
    fun unnamed same => unnamed (congrArg some same.symm)
  cases command with
  | addMember target member =>
    rw [execute]
    split
    · rw [get?_keep, if_neg (different unnamed)]
    · rfl
  | removeMember target member =>
    rw [execute]
    split
    · rw [get?_keep, if_neg (different unnamed)]
    · rfl
  | drop target => rw [execute, ByteMap.get?_erase, if_neg (different unnamed)]
  | setFields target fields =>
    rw [execute]
    split
    · rw [get?_keep, if_neg (different unnamed)]
    · rfl
  | setPosition target member point =>
    rw [execute]
    split
    · split
      · rw [get?_keep, if_neg (different unnamed)]
      · rfl
    · rfl
  | removePosition target member =>
    rw [execute]
    split
    · rw [get?_keep, if_neg (different unnamed)]
    · rfl
  | _ =>
    rw [execute]
    split <;> rfl

theorem set?_keep (content : Content) (none : Bool) :
    (table.keep key content none).set? other =
      if other = key then Content.set? (if none then .none else some content)
      else table.set? other := by
  rw [set?, get?_keep]
  split <;> rfl

theorem set?_keep_set (members : InsertionSet Bytes) :
    (table.keep key (.set members) members.isEmpty).set? other =
      if other = key then some members else table.set? other := by
  rw [set?_keep]
  by_cases empty : members.isEmpty
  · rw [if_pos empty, InsertionSet.isEmpty_iff.mp empty]
    rfl
  · rw [if_neg empty]
    rfl

/-- Content of another kind has no members. -/
theorem not_member_keep {content : Content} {none : Bool}
    (unlike : Content.set? (some content) = .none) :
    ¬ (table.keep key content none).Member key member := by
  rintro ⟨members, found, listed⟩
  rw [set?_keep, if_pos rfl] at found
  cases none with
  | true =>
    cases found
    exact InsertionSet.not_mem_empty member listed
  | false => exact nomatch unlike.symm.trans found

theorem set?_execute {command : Command} (unnamed : command.target? ≠ some key) :
    (table.execute command).2.set? key = table.set? key :=
  congrArg Content.set? (get?_execute unnamed)

theorem set?_addMember {members : InsertionSet Bytes} (typed : table.set? key = some members) :
    (table.execute (.addMember key member)).2.set? key = some (members.insert member) := by
  have some : (members.insert member).isEmpty = false := by
    rw [← Bool.not_eq_true, InsertionSet.isEmpty_iff]
    intro empty
    have held : member ∈ members.insert member := InsertionSet.mem_insert.mpr (.inr rfl)
    exact InsertionSet.not_mem_empty member (empty ▸ held)
  rw [execute, typed]
  exact (set?_keep _ false).trans (if_pos rfl)

theorem set?_removeMember {members : InsertionSet Bytes} (typed : table.set? key = some members) :
    (table.execute (.removeMember key member)).2.set? key = some (members.erase member) := by
  rw [execute, typed]
  exact (set?_keep_set _).trans (if_pos rfl)

/-- A command other than an addition makes no member. -/
theorem origin {command : Command} (held : (table.execute command).2.Member key member) :
    command = .addMember key member ∨ table.Member key member := by
  by_cases named : command.target? = some key
  · cases command with
    | addMember target added =>
      cases named
      cases typed : table.set? key with
      | none =>
        rw [execute, typed] at held
        exact .inr held
      | some members =>
        obtain ⟨after, found, listed⟩ := held
        rw [set?_addMember typed] at found
        cases found
        rcases InsertionSet.mem_insert.mp listed with before | rfl
        · exact .inr ⟨members, typed, before⟩
        · exact .inl rfl
    | removeMember target removed =>
      cases named
      cases typed : table.set? key with
      | none =>
        rw [execute, typed] at held
        exact .inr held
      | some members =>
        obtain ⟨after, found, listed⟩ := held
        rw [set?_removeMember typed] at found
        cases found
        exact .inr ⟨members, typed, (InsertionSet.mem_erase.mp listed).1⟩
    | drop target =>
      cases named
      obtain ⟨after, found, listed⟩ := held
      rw [execute, set?_erase, if_pos rfl] at found
      cases found
      exact (InsertionSet.not_mem_empty member listed).elim
    | setFields target fields =>
      cases named
      rw [execute] at held
      split at held
      · exact (not_member_keep rfl held).elim
      · exact .inr held
    | setPosition target moved point =>
      cases named
      rw [execute] at held
      split at held
      · split at held
        · exact (not_member_keep rfl held).elim
        · exact .inr held
      · exact .inr held
    | removePosition target moved =>
      cases named
      rw [execute] at held
      split at held
      · exact (not_member_keep rfl held).elim
      · exact .inr held
    | _ => cases named
  · obtain ⟨members, found, listed⟩ := held
    exact .inr ⟨members, set?_execute named ▸ found, listed⟩

/-- A server that keeps a table. -/
def server : Server where
  State := Table
  execute command table := table.execute command
  HasSet table key := (table.set? key).isSome
  Member := Member
  list table key typed := by
    obtain ⟨members, found⟩ := Option.isSome_iff_exists.mp typed
    refine ⟨members.toList, by rw [execute, found], fun member => ?_⟩
    rw [Member, found]
    simp [InsertionSet.mem_def]
  frame command table key unnamed := by
    refine ⟨by rw [set?_execute unnamed], fun member => ?_⟩
    rw [Member, set?_execute unnamed]
    rfl
  origin command table key member held := origin held
  add table key member typed := by
    obtain ⟨members, found⟩ := Option.isSome_iff_exists.mp typed
    refine ⟨by rw [set?_addMember found]; rfl, fun other => ?_⟩
    rw [Member, Member, set?_addMember found, found]
    simp [or_comm]
  remove table key member := by
    cases found : table.set? key with
    | none =>
      have unchanged : (table.execute (.removeMember key member)).2 = table := by
        rw [execute, found]
      rw [unchanged, found]
      refine ⟨id, fun other => ?_⟩
      rw [Member, found]
      simp
    | some members =>
      refine ⟨fun _ => by rw [set?_removeMember found]; rfl, fun other => ?_⟩
      rw [Member, Member, set?_removeMember found, found]
      simp [and_comm]
  drop table key := by
    rw [execute, set?_erase, if_pos rfl]
    refine ⟨rfl, fun other held => ?_⟩
    obtain ⟨members, found, listed⟩ := held
    rw [set?_erase, if_pos rfl] at found
    cases found
    exact InsertionSet.not_mem_empty other listed

end Table

end SecondaryIndex.Remote
