/-
**The flat form of an entity: one field for each leaf of its JSON form.**

* `leaves` lists the scalars and empty containers of a value with their dotted paths, nulls left
  out; `flatten` stores their JSON texts under the paths;
* `Entity.write` adds the index entries and positions that the schema asks for;
* `rebuild` puts the leaves of a hash back in place, field by field in byte order, and
  `EntityType.read` turns the result into an entity.
-/

import SecondaryIndex.Entity.Basic
import SecondaryIndex.Geo.Document
import SecondaryIndex.Json.Path
import SecondaryIndex.Record

namespace SecondaryIndex

/-! ### From a value to its fields -/

/-- A path one segment longer; behind an empty path there is no dot. -/
def joinPath (path segment : String) : String :=
  if path = "" then segment else path ++ "." ++ segment

/-- The segment of the item at a position. -/
def indexSegment (position : Nat) : String :=
  "[" ++ Nat.repr position ++ "]"

mutual

/-- The leaves of a value that stands at a path. -/
def leaves (path : String) : Json → List (String × Json)
  | .null => []
  | .object (member :: members) => memberLeaves path (member :: members)
  | .array (item :: items) => itemLeaves path 0 (item :: items)
  | leaf => if path = "" then [] else [(path, leaf)]

/-- The leaves of the items of an array that stands at a path, the first item at `position`. -/
def itemLeaves (path : String) (position : Nat) : List Json → List (String × Json)
  | [] => []
  | item :: rest =>
    leaves (joinPath path (indexSegment position)) item ++ itemLeaves path (position + 1) rest

/-- The leaves of the members of an object that stands at a path. -/
def memberLeaves (path : String) : List (String × Json) → List (String × Json)
  | [] => []
  | (key, value) :: rest => leaves (joinPath path key) value ++ memberLeaves path rest

end

/-- A leaf as a field and its value. -/
def storedLeaf (leaf : String × Json) : Bytes × Bytes :=
  (Bytes.ofString leaf.1, Bytes.ofString leaf.2.render)

/-- The fields of a value; of two leaves with one path the later is kept. -/
def flatten (value : Json) : Fields :=
  ByteMap.ofList ((leaves "" value).map storedLeaf)

/-- The values that an indexed path has: the scalar there, or the scalars in the array there. -/
def indexedValues (path : String) (value : Json) : List IndexValue :=
  match value.lookup path with
  | some (.array items) => items.filterMap IndexValue.ofJson?
  | some leaf => (IndexValue.ofJson? leaf).toList
  | none => []

/-- The index entries of a value. -/
def indexEntries (schema : Schema) (value : Json) : List IndexEntry :=
  schema.indexed.flatMap fun property =>
    (indexedValues property.path value).map (⟨property.path, ·⟩)

/-- The position at a path. -/
def positionEntry (path : String) (value : Json) : Except ConversionError PositionEntry :=
  match value.lookup path with
  | none | some .null => .ok ⟨path, none⟩
  | some leaf =>
    match Point.ofJson? leaf with
    | some point => .ok ⟨path, some point⟩
    | none => .error (.notAPoint path)

/-- The positions of a value, set or not. -/
def positionEntries (schema : Schema) (value : Json) :
    Except ConversionError (List PositionEntry) :=
  schema.geoPaths.mapM fun path => positionEntry path value

/-- Everything that a store keeps of an entity. -/
def Entity.write (schema : Schema) (entity : Entity) : Except ConversionError Write :=
  match entity.form with
  | .error message => .error (.serialize message)
  | .ok value =>
    if value.kind = .map then do
      let positions ← positionEntries schema value
      return {
        record := ⟨entity.id.bytes, schema.keyspace, flatten value⟩
        indexes := indexEntries schema value
        positions := positions }
    else .error (.notAMap value.kind)

/-! ### From fields to a value -/

/-- A value with one more field in place. The field has to be text, then its value has to be JSON,
then its indexes have to be below the bound. -/
def placeField (bound : Nat) (value : Json) (field content : Bytes) :
    Except ConversionError Json :=
  match field.toText? with
  | none => .error (.invalidField field)
  | some path =>
    match Json.read content with
    | .error error => .error (.invalidValue path error)
    | .ok leaf =>
      match Json.place bound leaf (Json.steps path) value with
      | some value => .ok value
      | none => .error (.invalidField field)

/-- The value that the fields describe. An array spends a field on each item, so no index may reach
the number of fields. -/
def rebuild (fields : Fields) : Except ConversionError Json :=
  fields.entries.foldlM (fun value field => placeField fields.size value field.1 field.2)
    (.object [])

/-- An id as a JSON value: a number if its text is one, else a text. -/
def idValue (id : Bytes) : Json :=
  match Json.read id with
  | .ok (.number value) => .number value
  | _ => .text id.toTextLossy

/-- The value with the id in place, unless something is there already. -/
def attachId (schema : Schema) (record : Record) (value : Json) : Except ConversionError Json :=
  match schema.idProperty? with
  | none => .ok value
  | some property =>
    if (value.lookup property.path).isSome then .ok value
    else
      match Json.place record.fields.size (idValue record.id) (Json.steps property.path) value with
      | some value => .ok value
      | none => .error (.invalidField (Bytes.ofString property.path))

/-- The entity that a record describes. -/
def EntityType.read (type : EntityType) (record : Record) : Except ConversionError Json := do
  let value ← rebuild record.fields
  let value ← attachId type.schema record value
  (type.shape.read value).mapError .deserialize

end SecondaryIndex
