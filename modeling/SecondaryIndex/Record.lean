/-
**What a store is given and what it gives back.**

* a `Record` is the flat form of an entity with its id and keyspace;
* a `Write` adds the complete lists of its index entries and positions, from which a store learns
  which earlier ones have gone.
-/

import SecondaryIndex.Collections.ByteMap
import SecondaryIndex.Geo
import SecondaryIndex.IndexValue
import SecondaryIndex.Keyspace

namespace SecondaryIndex

/-- The fields of one entity, in byte order. A missing key reads as no fields. -/
abbrev Fields := ByteMap Bytes

/-- The flat form of an entity. -/
structure Record where
  id : Bytes
  keyspace : Keyspace
  fields : Fields
deriving DecidableEq

/-- A value that an entity has at an indexed path. -/
structure IndexEntry where
  path : String
  value : IndexValue
deriving DecidableEq

/-- The position that an entity has at a path, if it has one. -/
structure PositionEntry where
  path : String
  point : Option Point
deriving DecidableEq

/-- Everything a store keeps of one entity. -/
structure Write where
  record : Record
  /-- All index entries the entity has now. -/
  indexes : List IndexEntry
  /-- Every path with positions, set or not. -/
  positions : List PositionEntry
deriving DecidableEq

namespace Write

/-- The id of the entity. -/
def id (write : Write) : Bytes :=
  write.record.id

/-- The keyspace of the entity. -/
def keyspace (write : Write) : Keyspace :=
  write.record.keyspace

/-- The keys of the index sets that the entity belongs to. -/
def indexKeys (write : Write) : List Bytes :=
  write.indexes.map fun entry => write.keyspace.indexKey entry.path entry.value.bytes

end Write

/-- What became of a delete. -/
inductive DeleteStatus where
  | deleted
  | missing
deriving DecidableEq

/-- The word for a status. -/
def DeleteStatus.word : DeleteStatus → String
  | .deleted => "Deleted"
  | .missing => "Missing"

end SecondaryIndex
