/-
**Keyspaces and the keys derived from them.**

All keys of one type of entity start with the name of its keyspace:

* the registry, a set of all ids, is at the name itself;
* the fields of an entity are at `name:id`, the set of index keys it belongs to at `name:id:idx`;
* the ids with a value at an indexed path are at `name:path:value`;
* the positions of a path are at `name:path`, with the last dot of the path as a colon.

Every key is a plain concatenation: an id, a path or a value that holds a colon can make two keys of
different roles equal.
-/

import SecondaryIndex.Bytes

namespace SecondaryIndex

/-- The name under which all keys of one type of entity live. -/
structure Keyspace where
  name : String
deriving DecidableEq

/-- The byte between the parts of a key. -/
def separator : UInt8 := 0x3A

/-- The last dot of a text as a colon. -/
def lastDotAsColon : List Char → List Char
  | [] => []
  | char :: rest =>
    if char = '.' ∧ '.' ∉ rest then ':' :: rest else char :: lastDotAsColon rest

/-- The name of the positions of a path. -/
def geoIndexName (path : String) : String :=
  String.ofList (lastDotAsColon path.toList)

namespace Keyspace

/-- The key of the set of all ids. -/
def registryKey (keyspace : Keyspace) : Bytes :=
  Bytes.ofString keyspace.name

/-- What all keys but the registry start with. -/
def keyStart (keyspace : Keyspace) : Bytes :=
  keyspace.registryKey ++ [separator]

/-- The key of the fields of an entity. -/
def entityKey (keyspace : Keyspace) (id : Bytes) : Bytes :=
  keyspace.keyStart ++ id

/-- The key of the ids with a value at a path. -/
def indexKey (keyspace : Keyspace) (path : String) (value : Bytes) : Bytes :=
  keyspace.keyStart ++ (Bytes.ofString path ++ [separator] ++ value)

/-- The key of the positions of a path. -/
def geoKey (keyspace : Keyspace) (path : String) : Bytes :=
  keyspace.keyStart ++ Bytes.ofString (geoIndexName path)

/-- The key of the set of index keys that an entity belongs to. -/
def helperKey (keyspace : Keyspace) (id : Bytes) : Bytes :=
  keyspace.keyStart ++ (id ++ Bytes.ofString ":idx")

/-- The name, filled up on the left with blanks to eight characters. -/
def aligned (keyspace : Keyspace) : String :=
  String.ofList (List.replicate (8 - keyspace.name.length) ' ') ++ keyspace.name

end Keyspace

example : geoIndexName "a.b.c" = "a.b:c" := by decide

end SecondaryIndex
