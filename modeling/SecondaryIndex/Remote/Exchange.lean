/-
**How each call of a store becomes commands for a remote one.**

* a `Transmission` is one trip to the remote store: a command, a run of commands whose replies come
  one by one, or a block that is carried out as a whole;
* `Exchange.reply` is the dialogue that answers a call. Writing and removing an entity take two
  trips: the first asks which index sets the entity belongs to, the second is a block that leaves
  them and makes the change;
* no trip is made for an empty list of keys.
-/

import SecondaryIndex.Dialogue
import SecondaryIndex.Event
import SecondaryIndex.Remote.Command
import SecondaryIndex.Remote.Reply
import SecondaryIndex.Store.Request

namespace SecondaryIndex.Remote

/-- One trip to a remote store. -/
inductive Transmission where
  /-- Asks whether the store has been reached before. -/
  | opened
  /-- Reaches the store. -/
  | opening
  | single (command : Command)
  /-- Commands sent together and answered one by one. -/
  | pipeline (commands : List Command)
  /-- Commands carried out together. -/
  | block (commands : List Command)

/-- The type of what a trip brings back. -/
@[reducible] def Transmission.Answer : Transmission → Type
  | .opened => Bool
  | .opening => Unit
  | .single _ => Reply
  | .pipeline _ => List Reply
  | .block _ => Reply

/-- The answering of a call by trips to a remote store. -/
abbrev Exchange := Dialogue Transmission.Answer Event StoreError

/-- Makes a trip. -/
def send (transmission : Transmission) : Exchange transmission.Answer :=
  Dialogue.request transmission

namespace Exchange

/-- What a reply is read as, or an error if it is none of that. -/
def decode {α : Type} : Option α → Exchange α
  | some value => .done value
  | none => .fail (.internal none)

/-- Reaches the store, unless it has been reached before. -/
def connect : Exchange Unit := do
  Dialogue.observe .connectionRequested
  let opened ← send .opened
  if opened then return ()
  else do
    Dialogue.observe .connectionOpened
    send .opening

/-! ### Reading -/

/-- The byte strings that a command asks for. -/
def list (command : Command) : Exchange (List Bytes) := do
  let reply ← send (.single command)
  decode reply.members?

/-- The members of combined sets; nothing for no sets. -/
def combined (word : String) (command : List Bytes → Command) (keys : List Bytes) :
    Exchange (List Bytes) :=
  if keys.isEmpty then return []
  else do
    let members ← list (command keys)
    Dialogue.observe (.setsRead word keys.length members.length)
    return members

/-- The fields at some keys; nothing for no keys. -/
def fieldsOf (keys : List Bytes) : Exchange (List Fields) :=
  if keys.isEmpty then return []
  else do
    let replies ← send (.pipeline (keys.map .fieldsAt))
    decode (replies.mapM Reply.fields?)

/-- The records of a page of the registered ids, without those that have no fields. -/
def pageOf (keyspace : Keyspace) (page : Page) : Exchange (List Record) := do
  connect
  let registered ← list (.members keyspace.registryKey)
  let ids := page.apply registered
  let fetched ← fieldsOf (ids.map keyspace.entityKey)
  return ((ids.zip fetched).filter fun (_, fields) => !fields.isEmpty).map fun (id, fields) =>
    ⟨id, keyspace, fields⟩

/-- How many ids are registered. -/
def count (keyspace : Keyspace) : Exchange Nat := do
  connect
  let reply ← send (.single (.size keyspace.registryKey))
  decode reply.count?

/-- The record of an id, unless it has no fields. -/
def get (keyspace : Keyspace) (id : Bytes) : Exchange (Option Record) := do
  connect
  let fetched ← fieldsOf [keyspace.entityKey id]
  let fields := (fetched.getLast?).getD ∅
  return if fields.isEmpty then none else some ⟨id, keyspace, fields⟩

/-! ### Writing -/

/-- The commands that take an entity out of its index sets. -/
def leaveSets (id : Bytes) (stale : List Bytes) : List Command :=
  stale.map fun key => .removeMember key id

/-- The commands that enter an index set. -/
def enterSet (keyspace : Keyspace) (id : Bytes) (entry : IndexEntry) : List Command :=
  let key := keyspace.indexKey entry.path entry.value.bytes
  [.addMember key id, .addMember (keyspace.helperKey id) key]

/-- The commands that take up a position, or leave it. -/
def enterPosition (keyspace : Keyspace) (id : Bytes) (entry : PositionEntry) : List Command :=
  let key := keyspace.geoKey entry.path
  .removePosition key id :: entry.point.toList.map fun point => .setPosition key id point

/-- The block that writes an entity which belongs to the given index sets. -/
def putCommands (write : Write) (stale : List Bytes) : List Command :=
  let key := write.keyspace.entityKey write.id
  leaveSets write.id stale ++
    [.drop (write.keyspace.helperKey write.id), .drop key] ++
    (if write.record.fields.isEmpty then [] else [.setFields key write.record.fields]) ++
    [.addMember write.keyspace.registryKey write.id] ++
    write.indexes.flatMap (enterSet write.keyspace write.id) ++
    write.positions.flatMap (enterPosition write.keyspace write.id)

/-- The outcome of a block that gives no answer of its own. -/
def acknowledged : Reply → Option Unit
  | .missing => some ()
  | .array items => if items.any Reply.isError then none else some ()
  | _ => none

/-- Writes an entity. -/
def put (label : String) (write : Write) : Exchange Unit := do
  connect
  let stale ← list (.members (write.keyspace.helperKey write.id))
  let reply ← send (.block (putCommands write stale))
  decode (acknowledged reply)
  Dialogue.observe
    (.entityWritten label write.keyspace write.indexes.length (some stale.length))

/-- The start of the block that removes an entity, without the two commands whose replies count. -/
def withdrawCommands (keyspace : Keyspace) (id : Bytes) (paths : List String)
    (stale : List Bytes) : List Command :=
  leaveSets id stale ++
    paths.map (fun path => .removePosition (keyspace.geoKey path) id) ++
    [.drop (keyspace.helperKey id)]

/-- The block that removes an entity which belongs to the given index sets. -/
def deleteCommands (keyspace : Keyspace) (id : Bytes) (paths : List String)
    (stale : List Bytes) : List Command :=
  withdrawCommands keyspace id paths stale ++
    [.removeMember keyspace.registryKey id, .drop (keyspace.entityKey id)]

/-- The two numbers at the end of a reply to a block. -/
def removed (skipped : Nat) : Reply → Option (Nat × Nat)
  | .array items =>
    if items.any Reply.isError then none
    else
      match items.drop skipped with
      | [registered, deleted] => do return (← registered.count?, ← deleted.count?)
      | _ => none
  | _ => none

/-- Removes an entity; it was there if its registration or its fields were. -/
def delete (label : String) (keyspace : Keyspace) (id : Bytes) (paths : List String) :
    Exchange DeleteStatus := do
  connect
  let stale ← list (.members (keyspace.helperKey id))
  let reply ← send (.block (deleteCommands keyspace id paths stale))
  let (registered, deleted) ←
    decode (removed (withdrawCommands keyspace id paths stale).length reply)
  Dialogue.observe (.entityErased label keyspace deleted)
  return if 0 < registered ∨ 0 < deleted then .deleted else .missing

/-! ### Every call -/

/-- Answers a call, for the log under the label of the store. -/
def reply (label : String) : (request : Request) → Exchange request.Answer
  | .connection => connect
  | .intersect keys => combined "SINTER" .intersect keys
  | .union keys => combined "SUNION" .union keys
  | .within key circle limit => list (.within key circle limit)
  | .fieldsOf keys => fieldsOf keys
  | .pageOf keyspace page => pageOf keyspace page
  | .count keyspace => count keyspace
  | .get keyspace id => get keyspace id
  | .put write => put label write
  | .delete keyspace id paths => delete label keyspace id paths

end Exchange

end SecondaryIndex.Remote
