/-
**Two clients that update one entity of a remote store at the same time.**

An update is two trips: the list of index keys is read, and a block is sent that was made from it.
Between the two the other client may make trips of its own, and nothing tells.

* `Exchange.advance` goes on with a dialogue up to its next trip, and `Race.run` lets two clients
  take turns in any order;
* `Exchange.advance_request` and `Exchange.advance_informed` — the two trips of an update;
* `over_run` — which lists the two blocks were made from, for every order of the trips;
* `consistent_run_iff` — the list always names the sets of the last block, but the sets follow
  exactly if the updates came one after the other, or if the earlier block entered no set that
  neither the list at the start nor the last block names;
* `not_consistent_moves` — two writes after which a person lives in two cities.
-/

import Mathlib.Data.List.Basic
import SecondaryIndex.Proofs.Remote.Block

namespace SecondaryIndex.Remote

/-! ## Part 1 — dialogues with a server -/

/-- The trip reaches the server. -/
def Transmission.reaches : Transmission → Bool
  | .opened => false
  | .opening => false
  | _ => true

namespace Exchange

variable {server : Server} {α : Type}

/-- Goes on with a dialogue until a trip has reached the server, or to the end. -/
def advance (server : Server) (opened : Bool) :
    Exchange α → server.State → Exchange α × server.State
  | .done value, state => (.done value, state)
  | .fail error, state => (.fail error, state)
  | .note _ next, state => advance server opened next state
  | .ask transmission next, state =>
    match server.trip opened transmission state with
    | (.ok answer, state) =>
      if transmission.reaches then (next answer, state)
      else advance server opened (next answer) state
    | (.error error, state) => (.fail error, state)

/-- Nothing is left to be asked. -/
def finished : Exchange α → Bool
  | .done _ => true
  | .fail _ => true
  | .note _ next => finished next
  | .ask .. => false

/-- An update after its first trip: the block is still to be sent. -/
def informed (label : String) (stale : List Bytes) :
    (update : Update) → Exchange update.request.Answer
  | .put write =>
    (send (.block (putCommands write stale))).bind fun reply =>
      (decode (acknowledged reply)).bind fun _ =>
        Dialogue.observe
          (.entityWritten label write.keyspace write.indexes.length (some stale.length))
  | .delete keyspace id paths =>
    (send (.block (deleteCommands keyspace id paths stale))).bind fun reply =>
      (decode (removed (withdrawCommands keyspace id paths stale).length reply)).bind
        fun (registered, deleted) =>
          (Dialogue.observe (.entityErased label keyspace deleted)).bind fun _ =>
            .done (if 0 < registered ∨ 0 < deleted then .deleted else .missing)

theorem advance_connect_bind (opened : Bool) (next : Unit → Exchange α) (state : server.State) :
    advance server opened (connect.bind next) state = advance server opened (next ()) state := by
  cases opened <;> rfl

theorem advance_list_bind {opened : Bool} {next : List Bytes → Exchange α} {state : server.State}
    {key : Bytes} {listed : List Bytes}
    (answered : server.execute (.members key) state = (.array (listed.map .bytes), state)) :
    advance server opened ((list (.members key)).bind next) state = (next listed, state) := by
  have answer : server.trip opened (.single (.members key)) state =
      (.ok (.array (listed.map .bytes)), state) := by
    rw [Server.trip, answered]
    rfl
  show advance server opened (.ask (.single (.members key)) fun reply =>
    (decode reply.members?).bind next) state = _
  rw [advance, answer]
  simp [Transmission.reaches, Reply.members?_array, decode, Dialogue.bind]

/-- **The first trip** reads the list and leaves the state alone. -/
theorem advance_request (label : String) (opened : Bool) (update : Update) {state : server.State}
    (typed : server.HasSet state (update.keyspace.helperKey update.id)) :
    ∃ stale, server.Lists state (update.keyspace.helperKey update.id) stale ∧
      advance server opened (reply label update.request) state =
        (informed label stale update, state) := by
  obtain ⟨stale, answered, lists⟩ := server.list state _ typed
  refine ⟨stale, lists, ?_⟩
  cases update with
  | put write =>
    show advance server opened (put label write) state = _
    rw [put]
    exact (advance_connect_bind opened _ state).trans (advance_list_bind answered)
  | delete keyspace id paths =>
    show advance server opened (delete label keyspace id paths) state = _
    rw [delete]
    exact (advance_connect_bind opened _ state).trans (advance_list_bind answered)

/-- A block is carried out, and the dialogue is over if it is over with every reply. -/
theorem advance_block_bind {opened : Bool} {commands : List Command} {next : Reply → Exchange α}
    {state : server.State} (complete : ∀ command ∈ commands, command.complete)
    (ends : ∀ reply, (next reply).finished) :
    (advance server opened ((send (.block commands)).bind next) state).2 =
        server.after commands state ∧
      (advance server opened ((send (.block commands)).bind next) state).1.finished := by
  rw [← Server.block_state complete]
  show (advance server opened (.ask (.block commands) next) state).2 = _ ∧
    (advance server opened (.ask (.block commands) next) state).1.finished
  rw [advance, Server.trip]
  cases accepted : Server.accepted (server.block commands state).1 with
  | ok reply =>
    simp only [accepted, Transmission.reaches, if_true, true_and]
    exact ends reply
  | error error =>
    simp only [accepted, true_and]
    rfl

/-- **The second trip** carries the block out, and the dialogue is over whatever the reply is. -/
theorem advance_informed (label : String) (opened : Bool) (stale : List Bytes) (update : Update)
    (state : server.State) :
    (advance server opened (informed label stale update) state).2 =
        server.after (update.transaction stale) state ∧
      (advance server opened (informed label stale update) state).1.finished := by
  have complete : ∀ command ∈ update.transaction stale, command.complete :=
    fun command listed => Update.complete_of_mem_transaction listed
  cases update with
  | put write =>
    refine advance_block_bind complete fun reply => ?_
    cases acknowledged reply <;> rfl
  | delete keyspace id paths =>
    refine advance_block_bind complete fun reply => ?_
    cases removed (withdrawCommands keyspace id paths stale).length reply <;> rfl

end Exchange

/-! ## Part 2 — two clients -/

/-- One of two clients. -/
inductive Side where
  | first
  | second
deriving DecidableEq

/-- The client on the other side. -/
def Side.other : Side → Side
  | .first => .second
  | .second => .first

@[simp] theorem Side.other_other (side : Side) : side.other.other = side := by
  cases side <;> rfl

theorem Side.other_ne (side : Side) : side.other ≠ side := by
  cases side <;> decide

theorem Side.eq_other {side last : Side} (different : side ≠ last) : side = last.other := by
  cases side <;> cases last <;> first | rfl | exact (different rfl).elim

/-- A client in the middle of a call. -/
structure Client where
  /-- The line was open before the call. -/
  opened : Bool
  request : Request
  /-- What is left of the dialogue. -/
  rest : Exchange request.Answer

namespace Client

/-- A client that is about to make an update. -/
def fresh (label : String) (opened : Bool) (update : Update) : Client :=
  ⟨opened, update.request, Exchange.reply label update.request⟩

/-- A client that has read the list of index keys. -/
def informed (label : String) (opened : Bool) (update : Update) (stale : List Bytes) : Client :=
  ⟨opened, update.request, Exchange.informed label stale update⟩

end Client

/-- A server with two clients. -/
structure Race (server : Server) where
  state : server.State
  clients : Side → Client

namespace Race

variable {server : Server} {race : Race server} {side : Side} {label : String} {opened : Bool}
  {update : Update} {stale : List Bytes}

/-- Lets a client make its next trip. -/
def step (race : Race server) (side : Side) : Race server :=
  let client := race.clients side
  let (rest, state) := client.rest.advance server client.opened race.state
  ⟨state, fun other =>
    if other = side then ⟨client.opened, client.request, rest⟩ else race.clients other⟩

/-- Lets the clients take turns. -/
def run (race : Race server) (schedule : List Side) : Race server :=
  schedule.foldl step race

/-- Two clients that are about to make an update each. -/
def start (server : Server) (labels : Side → String) (opened : Side → Bool)
    (updates : Side → Update) (state : server.State) : Race server :=
  ⟨state, fun side => .fresh (labels side) (opened side) (updates side)⟩

theorem clients_step_other (race : Race server) (side : Side) :
    (race.step side).clients side.other = race.clients side.other := by
  rw [step]
  exact if_neg side.other_ne

/-- **Reading** informs a client, and changes nothing else. -/
theorem step_fresh (fresh : race.clients side = .fresh label opened update)
    (typed : server.HasSet race.state (update.keyspace.helperKey update.id)) :
    ∃ stale, server.Lists race.state (update.keyspace.helperKey update.id) stale ∧
      (race.step side).state = race.state ∧
      (race.step side).clients side = .informed label opened update stale := by
  obtain ⟨stale, lists, advanced⟩ := Exchange.advance_request label opened update typed
  refine ⟨stale, lists, ?_, ?_⟩
  · rw [step, fresh]
    exact congrArg Prod.snd advanced
  · rw [step, fresh]
    dsimp only
    rw [if_pos rfl]
    exact congrArg (fun outcome => Client.mk opened update.request outcome.1) advanced

/-- **The block** of an informed client ends its call. -/
theorem step_informed (informed : race.clients side = .informed label opened update stale) :
    (race.step side).state = server.after (update.transaction stale) race.state ∧
      ((race.step side).clients side).rest.finished := by
  have advanced := Exchange.advance_informed label opened stale update race.state
  rw [step, informed]
  refine ⟨advanced.1, ?_⟩
  dsimp only
  rw [if_pos rfl]
  exact advanced.2

/-! ### Both blocks -/

variable {labels : Side → String} {lines : Side → Bool} {updates : Side → Update} {last : Side}
  {first second : List Bytes} {state : server.State} {keyspace : Keyspace} {id : Bytes}
  {indexKeys : List Bytes} {paths : List String} {schedule : List Side}

/-- Both calls are over, and of the two blocks the one of the last client came second. -/
structure Over (updates : Side → Update) (last : Side) (first second : List Bytes)
    (state : server.State) (race : Race server) : Prop where
  state_eq : race.state = server.after ((updates last).transaction second)
    (server.after ((updates last.other).transaction first) state)
  finished : ∀ side, (race.clients side).rest.finished

/-- Two informed clients send their blocks. -/
theorem over_of_informed (state_eq : race.state = state)
    (informedOther : race.clients last.other =
      .informed (labels last.other) (lines last.other) (updates last.other) first)
    (informedLast : race.clients last =
      .informed (labels last) (lines last) (updates last) second) :
    Over updates last first second state ((race.step last.other).step last) := by
  have one := step_informed informedOther
  have kept := clients_step_other race last.other
  rw [Side.other_other, informedLast] at kept
  have two := step_informed kept
  have stays := clients_step_other (race.step last.other) last
  constructor
  · rw [two.1, one.1, state_eq]
  · intro side
    by_cases same : side = last
    · exact same ▸ two.2
    · rw [Side.eq_other same, stays]
      exact one.2

/-- Both clients read, in whatever order, before any of them sends its block. -/
theorem informed_of_reads (side : Side) (fresh : ∀ side, race.clients side =
      .fresh (labels side) (lines side) (updates side))
    (typed : ∀ side,
      server.HasSet race.state ((updates side).keyspace.helperKey (updates side).id)) :
    ((race.step side).step side.other).state = race.state ∧
      ∀ other, ∃ stale,
        server.Lists race.state ((updates other).keyspace.helperKey (updates other).id) stale ∧
        ((race.step side).step side.other).clients other =
          .informed (labels other) (lines other) (updates other) stale := by
  obtain ⟨one, oneLists, oneState, oneInformed⟩ := step_fresh (fresh side) (typed side)
  have kept := (clients_step_other race side).trans (fresh side.other)
  have typedOther := typed side.other
  rw [← oneState] at typedOther
  obtain ⟨two, twoLists, twoState, twoInformed⟩ := step_fresh kept typedOther
  have stays := clients_step_other (race.step side) side.other
  rw [Side.other_other, oneInformed] at stays
  rw [oneState] at twoLists twoState
  refine ⟨twoState, fun other => ?_⟩
  by_cases same : other = side
  · rw [same]
    exact ⟨one, oneLists, stays⟩
  · rw [Side.eq_other same]
    exact ⟨two, twoLists, twoInformed⟩

/-- Both clients read, in whatever order, and then they send their blocks. -/
theorem over_of_reads (last side : Side) (fresh : ∀ side, race.clients side =
      .fresh (labels side) (lines side) (updates side))
    (typed : ∀ side,
      server.HasSet race.state ((updates side).keyspace.helperKey (updates side).id)) :
    ∃ first second,
      Over updates last first second race.state
        ((((race.step side).step side.other).step last.other).step last) ∧
      server.Lists race.state
        ((updates last.other).keyspace.helperKey (updates last.other).id) first ∧
      server.Lists race.state ((updates last).keyspace.helperKey (updates last).id) second := by
  obtain ⟨kept, informed⟩ := informed_of_reads side fresh typed
  obtain ⟨first, firstLists, firstInformed⟩ := informed last.other
  obtain ⟨second, secondLists, secondInformed⟩ := informed last
  exact ⟨first, second, over_of_informed kept firstInformed secondInformed, firstLists, secondLists⟩

/-- One client makes both trips, and then the other does. -/
theorem over_of_turns (fresh : ∀ side, race.clients side =
      .fresh (labels side) (lines side) (updates side))
    (typed : ∀ side, server.HasSet race.state ((updates side).keyspace.helperKey (updates side).id))
    (typedAfter : ∀ first, server.HasSet
      (server.after ((updates last.other).transaction first) race.state)
      ((updates last).keyspace.helperKey (updates last).id)) :
    ∃ first second,
      Over updates last first second race.state
        ((((race.step last.other).step last.other).step last).step last) ∧
      server.Lists race.state
        ((updates last.other).keyspace.helperKey (updates last.other).id) first ∧
      server.Lists (server.after ((updates last.other).transaction first) race.state)
        ((updates last).keyspace.helperKey (updates last).id) second := by
  obtain ⟨first, firstLists, readState, informed⟩ :=
    step_fresh (fresh last.other) (typed last.other)
  have sent := step_informed informed
  rw [readState] at sent
  have stillFresh := (clients_step_other (race.step last.other) last.other).trans
    (clients_step_other race last.other)
  rw [Side.other_other, fresh last] at stillFresh
  have typedLast := typedAfter first
  rw [← sent.1] at typedLast
  obtain ⟨second, secondLists, againState, again⟩ := step_fresh stillFresh typedLast
  have sentLast := step_informed again
  have stays := (clients_step_other (((race.step last.other).step last.other).step last) last).trans
    (clients_step_other ((race.step last.other).step last.other) last)
  refine ⟨first, second, ⟨?_, fun side => ?_⟩, firstLists, sent.1 ▸ secondLists⟩
  · rw [sentLast.1, againState, sent.1]
  · by_cases same : side = last
    · exact same ▸ sentLast.2
    · rw [Side.eq_other same, stays]
      exact sent.2

theorem length_schedule (schedule : List Side) :
    schedule.length = schedule.count .first + schedule.count .second := by
  induction schedule with
  | nil => rfl
  | cons side schedule ih => cases side <;> simp <;> omega

/-- If each client makes two trips, they make them one after the other, or both make the first
before any makes the second. -/
theorem schedule_cases (complete : ∀ side, schedule.count side = 2)
    (ends : schedule.getLast? = some last) :
    schedule = [last.other, last.other, last, last] ∨
      schedule = [last.other, last, last.other, last] ∨
      schedule = [last, last.other, last.other, last] := by
  have length := length_schedule schedule
  rw [complete, complete] at length
  obtain ⟨a, b, c, d, rfl⟩ := List.length_eq_four.mp length
  have first := complete .first
  have second := complete .second
  have final : d = last := Option.some.inj ends
  subst final
  revert first second
  cases a <;> cases b <;> cases c <;> cases d <;> decide

/-- Both calls are over after all trips. If they came one after the other, the second block was made
from the list that the first one left, and otherwise from the list at the start. -/
theorem over_run (labels : Side → String) (lines : Side → Bool)
    (inside : ∀ side, Within keyspace id indexKeys paths (updates side))
    (apart : Apart keyspace id indexKeys paths) (typed : server.Typed keyspace id indexKeys state)
    (complete : ∀ side, schedule.count side = 2) (ends : schedule.getLast? = some last) :
    ∃ first second,
      Over updates last first second state
        ((start server labels lines updates state).run schedule) ∧
      server.Lists state (keyspace.helperKey id) first ∧
      server.Lists
        (if schedule = [last.other, last.other, last, last] then
          server.after ((updates last.other).transaction first) state
        else state) (keyspace.helperKey id) second := by
  have helper : ∀ side,
      (updates side).keyspace.helperKey (updates side).id = keyspace.helperKey id :=
    fun side => by rw [(inside side).keyspace_eq, (inside side).id_eq]
  have fresh : ∀ side, (start server labels lines updates state).clients side =
      .fresh (labels side) (lines side) (updates side) := fun side => rfl
  have typedStart : ∀ side, server.HasSet (start server labels lines updates state).state
      ((updates side).keyspace.helperKey (updates side).id) :=
    fun side => helper side ▸ typed _ List.mem_cons_self
  rcases schedule_cases complete ends with rfl | rfl | rfl
  · have typedAfter := fun first =>
      Server.typed_transaction first apart (inside last.other) typed _ List.mem_cons_self
    obtain ⟨first, second, ended, firstLists, secondLists⟩ :=
      over_of_turns fresh typedStart fun first => helper last ▸ typedAfter first
    refine ⟨first, second, ended, helper last.other ▸ firstLists, ?_⟩
    rw [if_pos rfl]
    exact helper last ▸ secondLists
  · obtain ⟨first, second, ended, firstLists, secondLists⟩ :=
      over_of_reads last last.other fresh typedStart
    rw [Side.other_other] at ended
    refine ⟨first, second, ended, helper last.other ▸ firstLists, ?_⟩
    rw [if_neg (by cases last <;> decide)]
    exact helper last ▸ secondLists
  · obtain ⟨first, second, ended, firstLists, secondLists⟩ :=
      over_of_reads last last fresh typedStart
    refine ⟨first, second, ended, helper last.other ▸ firstLists, ?_⟩
    rw [if_neg (by cases last <;> decide)]
    exact helper last ▸ secondLists

/-- **Two updates at the same time.** The list ends up with the index sets of the last block. The
store is consistent exactly if the updates were made one after the other, or if the earlier block
entered no set beside those of the list at the start and of the last block. -/
theorem consistent_run_iff (labels : Side → String) (lines : Side → Bool)
    (inside : ∀ side, Within keyspace id indexKeys paths (updates side))
    (apart : Apart keyspace id indexKeys paths) (typed : server.Typed keyspace id indexKeys state)
    (consistent : server.Consistent keyspace id state)
    (complete : ∀ side, schedule.count side = 2) (ends : schedule.getLast? = some last) :
    let race := (start server labels lines updates state).run schedule
    (∀ side, (race.clients side).rest.finished) ∧
      (∀ key, server.Member race.state (keyspace.helperKey id) key ↔
        key ∈ (updates last).indexKeys) ∧
      (server.Consistent keyspace id race.state ↔
        schedule = [last.other, last.other, last, last] ∨
          ∀ key ∈ (updates last.other).indexKeys,
            server.Member state (keyspace.helperKey id) key ∨ key ∈ (updates last).indexKeys) := by
  intro race
  obtain ⟨first, second, ended, firstLists, secondLists⟩ :=
    over_run labels lines inside apart typed complete ends
  have between := Server.typed_transaction first apart (inside last.other) typed
    _ List.mem_cons_self
  refine ⟨ended.finished, fun key => ?_, ?_⟩
  · rw [ended.state_eq]
    exact Server.member_helper_transaction apart (inside last) between
  · rw [ended.state_eq, Server.consistent_after_iff apart (inside last.other) (inside last) typed
      consistent firstLists]
    by_cases serial : schedule = [last.other, last.other, last, last]
    · -- the second block was made from the list of the first
      rw [if_pos serial] at secondLists
      refine iff_of_true (fun key entered => .inl ?_) (.inl serial)
      rw [secondLists key]
      exact (Server.member_helper_transaction apart (inside last.other)
        (typed _ List.mem_cons_self)).mpr entered
    · rw [if_neg serial] at secondLists
      rw [or_iff_right serial]
      exact forall₂_congr fun key _ => or_congr_left (secondLists key)

/-- A person who has come to Tear. -/
def toTear : Update :=
  .put (.ofTexts "persons" "1" [("city", "\"Tear\"")] [("city", "Tear")] [])

/-- The same person, who has come to Caemlyn. -/
def toCaemlyn : Update :=
  .put (.ofTexts "persons" "1" [("city", "\"Caemlyn\"")] [("city", "Caemlyn")] [])

/-- One client removes the person, the other one moves it. -/
def leaving : Side → Update
  | .first => .delete ⟨"persons"⟩ (Bytes.ofString "1") []
  | .second => toCaemlyn

/-- A table with the person in Tear. -/
def inTear : Table :=
  Table.server.after (toTear.transaction []) (∅ : Table)

theorem consistent_run_leaving :
    let keys := toTear.indexKeys ++ toCaemlyn.indexKeys
    let keyspace : Keyspace := ⟨"persons"⟩
    let id := Bytes.ofString "1"
    let race := (start Table.server (fun _ => "redis") (fun _ => true) leaving inTear).run
      [.first, .second, .first, .second]
    (∀ side, Within keyspace id keys [] (leaving side)) ∧ Apart keyspace id keys [] ∧
      Table.server.Typed keyspace id keys inTear ∧ Table.server.Consistent keyspace id inTear ∧
      Table.server.Consistent keyspace id race.state := by
  intro keys keyspace id race
  have inside : ∀ side, Within keyspace id keys [] (leaving side) := by
    intro side
    cases side
    · exact ⟨rfl, rfl, by decide, by decide⟩
    · exact ⟨rfl, rfl, by decide, by decide⟩
  have insideTear : Within keyspace id keys [] toTear := ⟨rfl, rfl, by decide, by decide⟩
  have apart : Apart keyspace id keys [] := ⟨by decide, by decide, by decide⟩
  have empty : Table.server.Typed keyspace id keys (∅ : Table) := fun _ _ => rfl
  have typed : Table.server.Typed keyspace id keys inTear :=
    Server.typed_transaction [] apart insideTear empty
  have consistentEmpty : Table.server.Consistent keyspace id (∅ : Table) := fun _ _ _ =>
    iff_of_false Table.not_member_empty Table.not_member_empty
  have lists : Table.server.Lists (∅ : Table) (keyspace.helperKey id) [] := fun _ =>
    iff_of_false List.not_mem_nil Table.not_member_empty
  have consistent : Table.server.Consistent keyspace id inTear :=
    Server.consistent_transaction apart insideTear empty consistentEmpty lists
  refine ⟨inside, apart, typed, consistent, ?_⟩
  have counts : ∀ side, [Side.first, .second, .first, .second].count side = 2 := by
    intro side
    cases side <;> rfl
  have ends : [Side.first, .second, .first, .second].getLast? = some .second := rfl
  have ended := consistent_run_iff (fun _ => "redis") (fun _ => true) inside apart typed consistent
    counts ends
  exact ended.2.2.mpr (.inr fun key named => nomatch named)

/-- Both clients move the person. -/
def moves : Side → Update
  | .first => toTear
  | .second => toCaemlyn

/-- The table when both clients read before any of them writes. -/
def unseenMove : Table :=
  ((start Table.server (fun _ => "redis") (fun _ => true) moves (∅ : Table)).run
    [.first, .second, .first, .second]).state

/-- **A person who lives in two cities.** The second write does not know what the first one
entered. -/
theorem not_consistent_moves :
    Table.server.Consistent ⟨"persons"⟩ (Bytes.ofString "1") (∅ : Table) ∧
      ¬ Table.server.Consistent ⟨"persons"⟩ (Bytes.ofString "1") unseenMove := by
  refine ⟨fun _ _ _ => iff_of_false Table.not_member_empty Table.not_member_empty, ?_⟩
  intro consistent
  have same := consistent "city" (Bytes.ofString "Tear") (by decide)
  have lives : unseenMove.Member (Keyspace.indexKey ⟨"persons"⟩ "city" (Bytes.ofString "Tear"))
      (Bytes.ofString "1") := by
    decide
  have unlisted : ¬ unseenMove.Member (Keyspace.helperKey ⟨"persons"⟩ (Bytes.ofString "1"))
      (Keyspace.indexKey ⟨"persons"⟩ "city" (Bytes.ofString "Tear")) := by
    decide
  exact unlisted (same.mp lives)

end Race

end SecondaryIndex.Remote
