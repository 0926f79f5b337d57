/-
**Three sample types of entity: persons, cities and members.**

* `person` has a text id, an optional address and a path that is declared but never stored;
* `city` has a number for its id;
* `member` may have no id, and has a sequence of indexed tags.
-/

import SecondaryIndex.Entity.Basic
import SecondaryIndex.Geo.Document
import SecondaryIndex.Json.Path

namespace SecondaryIndex

/-- The entity of a type that a JSON value describes, its id read at the declared path. -/
def EntityType.entity (type : EntityType) (value : Json) : Except Json.ShapeError Entity := do
  let settled ← type.shape.read value
  let id := type.schema.idProperty?.bind fun property =>
    (settled.lookup property.path).bind IndexValue.ofJson?
  return ⟨.ok settled, id.getD (.ofString "")⟩

namespace Samples

/-- A city with an optional place. -/
def addressShape : Json.Shape :=
  .record "Address" [("city", .text), ("location", .optional Point.shape)] []

/-- Persons, with an address that may be missing. -/
def person : EntityType where
  schema := (Schema.empty "Person" ⟨"persons"⟩).declareAll
    [(.identifier, "id"), (.indexed, "firstname"), (.indexed, "lastname"), (.indexed, "age"),
      (.indexed, "address.city"), (.geoIndexed, "address.location"), (.plain, "nickname")]
  shape := .record "Person"
    [("id", .text), ("firstname", .text), ("lastname", .text), ("age", .unsigned 32),
      ("address", .optional addressShape)] []

/-- Cities, numbered. -/
def city : EntityType where
  schema := (Schema.empty "City" ⟨"cities"⟩).declareAll
    [(.identifier, "id"), (.indexed, "name")]
  shape := .record "City" [("id", .unsigned 64), ("name", .text)] []

/-- Members, whose id may be left to the record. -/
def member : EntityType where
  schema := (Schema.empty "Member" ⟨"members"⟩).declareAll
    [(.identifier, "id"), (.indexed, "firstname"), (.indexed, "tags"), (.indexed, "address.city"),
      (.geoIndexed, "address.location"), (.plain, "age")]
  shape := .record "Member"
    [("id", .optional .text), ("firstname", .text), ("age", .unsigned 32), ("active", .boolean),
      ("tags", .sequence .text), ("address", addressShape)] ["id"]

end Samples

end SecondaryIndex
