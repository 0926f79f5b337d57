/-
**Writing an entity to a store, and removing one.**

Every entity has a set that lists the index sets it belongs to. Both updates start by leaving those
sets, so nothing of an earlier version stays behind:

* `put` then stores the fields, registers the id and enters the sets and positions of the new
  version;
* `delete` then drops the positions, the registration and the fields; `removal` tells which of them
  it finds.
-/

import SecondaryIndex.Store.Basic

namespace SecondaryIndex.Store

/-- The store after an entity has left all its index sets. -/
def leaveSets (store : Store) (keyspace : Keyspace) (id : Bytes) : Store :=
  let helper := keyspace.helperKey id
  ((store.members helper).toList.foldl (fun store key => store.removeMember key id) store).dropSet
    helper

/-- The store with the fields of an entity; an entity without fields holds no key. -/
def storeFields (store : Store) (keyspace : Keyspace) (id : Bytes) (fields : Fields) : Store :=
  let key := keyspace.entityKey id
  if fields.isEmpty then store.dropFields key else store.setFields key fields

/-- The store after an entity has entered an index set. -/
def enterSet (keyspace : Keyspace) (id : Bytes) (store : Store) (entry : IndexEntry) : Store :=
  let key := keyspace.indexKey entry.path entry.value.bytes
  (store.addMember key id).addMember (keyspace.helperKey id) key

/-- The store after an entity has taken up a position, or has left it. -/
def enterPosition (keyspace : Keyspace) (id : Bytes) (store : Store) (entry : PositionEntry) :
    Store :=
  let key := keyspace.geoKey entry.path
  let left := store.removePosition key id
  match entry.point with
  | some point => left.setPosition key id point
  | none => left

/-- The store after an entity has been written. -/
def put (store : Store) (write : Write) : Store :=
  let left := store.leaveSets write.keyspace write.id
  let stored := left.storeFields write.keyspace write.id write.record.fields
  let registered := stored.addMember write.keyspace.registryKey write.id
  let entered := write.indexes.foldl (enterSet write.keyspace write.id) registered
  write.positions.foldl (enterPosition write.keyspace write.id) entered

/-- What a removal finds. -/
structure Removal where
  /-- The id was registered. -/
  registered : Bool
  /-- The entity had fields. -/
  existed : Bool
deriving DecidableEq

/-- An entity was there if either trace of it was. -/
def Removal.status (removal : Removal) : DeleteStatus :=
  if removal.existed || removal.registered then .deleted else .missing

/-- The store after an entity has left its index sets and the positions of the given paths. -/
def withdraw (store : Store) (keyspace : Keyspace) (id : Bytes) (paths : List String) : Store :=
  paths.foldl (fun store path => store.removePosition (keyspace.geoKey path) id)
    (store.leaveSets keyspace id)

/-- What the removal of an entity finds. -/
def removal (store : Store) (keyspace : Keyspace) (id : Bytes) (paths : List String) : Removal :=
  let withdrawn := store.withdraw keyspace id paths
  ⟨id ∈ withdrawn.members keyspace.registryKey,
    withdrawn.fields.contains (keyspace.entityKey id)⟩

/-- The store after an entity has been removed. -/
def delete (store : Store) (keyspace : Keyspace) (id : Bytes) (paths : List String) : Store :=
  ((store.withdraw keyspace id paths).removeMember keyspace.registryKey id).dropFields
    (keyspace.entityKey id)

end SecondaryIndex.Store
