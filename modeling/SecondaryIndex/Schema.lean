/-
**What queries may ask of a type of entity.**

* a `Schema` lists the declared paths with their roles, in the order of their last declarations;
* `Schema.declare` replaces an earlier declaration of the same path;
* `Schema.resolve` finds a declared path, `Schema.resolveGeo` one that carries positions.
-/

import SecondaryIndex.Keyspace

namespace SecondaryIndex

/-- What a path is to queries. -/
inductive Role where
  /-- The id: a predicate on it names entities directly. -/
  | identifier
  /-- One index set for each value. -/
  | indexed
  /-- One position for each entity. -/
  | geoIndexed
  /-- Stored, but not indexed. -/
  | plain
deriving DecidableEq

/-- A declared path. -/
structure Property where
  path : String
  role : Role
deriving DecidableEq

/-- The property is the id. -/
def Property.isId (property : Property) : Bool :=
  property.role = .identifier

/-- A path that does not fit a schema. -/
inductive MappingError where
  | unknownProperty (entity path : String)
  | notGeoIndexed (entity path : String)
deriving DecidableEq

/-- The wording of a misfit. -/
def MappingError.message : MappingError → String
  | .unknownProperty entity path =>
    "No property '" ++ path ++ "' found on entity '" ++ entity ++ "'"
  | .notGeoIndexed entity path =>
    "Property '" ++ path ++ "' of entity '" ++ entity ++ "' is not geo indexed"

/-- The declared paths of a type of entity. -/
structure Schema where
  /-- The name of the type in diagnostics. -/
  name : String
  keyspace : Keyspace
  properties : List Property
deriving DecidableEq

namespace Schema

/-- A schema that declares nothing. -/
def empty (name : String) (keyspace : Keyspace) : Schema :=
  ⟨name, keyspace, []⟩

/-- The schema with a further declaration, the last one of its path. -/
def declare (schema : Schema) (role : Role) (path : String) : Schema :=
  { schema with properties := schema.properties.filter (·.path ≠ path) ++ [⟨path, role⟩] }

/-- The schema with further declarations, in turn. -/
def declareAll (schema : Schema) (declarations : List (Role × String)) : Schema :=
  declarations.foldl (fun schema declaration => schema.declare declaration.1 declaration.2) schema

/-- The id, if one is declared. -/
def idProperty? (schema : Schema) : Option Property :=
  schema.properties.find? (·.isId)

/-- The declared property of a path. -/
def resolve (schema : Schema) (path : String) : Except MappingError Property :=
  match schema.properties.find? (·.path = path) with
  | some property => .ok property
  | none => .error (.unknownProperty schema.name path)

/-- The declared property of a path that carries positions. -/
def resolveGeo (schema : Schema) (path : String) : Except MappingError Property := do
  let property ← schema.resolve path
  if property.role = .geoIndexed then return property
  else throw (.notGeoIndexed schema.name property.path)

/-- The properties with index sets. -/
def indexed (schema : Schema) : List Property :=
  schema.properties.filter (·.role = .indexed)

/-- The properties with positions. -/
def geoIndexed (schema : Schema) : List Property :=
  schema.properties.filter (·.role = .geoIndexed)

/-- The paths with positions. -/
def geoPaths (schema : Schema) : List String :=
  schema.geoIndexed.map (·.path)

end Schema

end SecondaryIndex
