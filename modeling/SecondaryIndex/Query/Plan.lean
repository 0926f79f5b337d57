/-
**Criteria turned into keys, before a store is asked anything.**

* a `Group` holds the ids that are known without a look-up and the keys of the sets to combine;
* a lone predicate that has to be met may name ids; several of them are always looked up in index
  sets, also a predicate on the id;
* `Plan.resolve` reports the first path that does not fit the schema: those to be met together come
  first, then those of which one is enough, then the circle.
-/

import SecondaryIndex.Query.Basic
import SecondaryIndex.Query.Selection

namespace SecondaryIndex

/-- What a group of predicates asks of a store. -/
structure Group where
  /-- Ids that need no look-up. -/
  direct : List Bytes
  /-- Keys of index sets. -/
  keys : List Bytes
deriving DecidableEq

/-- The ids within a circle at a key. -/
structure Area where
  key : Bytes
  circle : Circle
deriving DecidableEq

/-- What criteria ask of a store. -/
structure Plan where
  all : Group
  any : Group
  near? : Option Area
deriving DecidableEq

/-- The keys of the index sets of all values of some predicates. -/
def indexKeys (keyspace : Keyspace) (predicates : List Predicate) : List Bytes :=
  predicates.flatMap fun predicate =>
    predicate.values.map fun value => keyspace.indexKey predicate.path value.bytes

/-- The group of a selection. -/
def Group.ofSelection (keyspace : Keyspace) (selection : Selection) : Group :=
  ⟨selection.direct, indexKeys keyspace selection.others⟩

namespace Plan

/-- The selection of some predicates, reported. -/
def select (identify : IndexValue → Bytes) (schema : Schema) (predicates : List Predicate) :
    Querying Selection := do
  let selection ← .ofExcept ((Selection.of identify schema predicates).mapError .mapping)
  report (.predicatesSelected schema.name selection.direct.length selection.others.length)
  return selection

/-- The group of predicates to be met together. -/
def resolveAll (identify : IndexValue → Bytes) (schema : Schema) (keyspace : Keyspace)
    (predicates : List Predicate) : Querying Group :=
  match predicates with
  | [predicate] => do
    return .ofSelection keyspace (← select identify schema [predicate])
  | predicates => do
    let _ ← .ofExcept ((predicates.mapM fun predicate => schema.resolve predicate.path).mapError
      .mapping)
    return ⟨[], indexKeys keyspace predicates⟩

/-- The group of predicates of which one is enough. -/
def resolveAny (identify : IndexValue → Bytes) (schema : Schema) (keyspace : Keyspace)
    (predicates : List Predicate) : Querying Group := do
  return .ofSelection keyspace (← select identify schema predicates)

/-- The circle at its key. -/
def resolveNear (schema : Schema) (keyspace : Keyspace) : Option Near → Querying (Option Area)
  | none => return none
  | some near => do
    let _ ← .ofExcept ((schema.resolveGeo near.path).mapError .mapping)
    return some ⟨keyspace.geoKey near.path, near.circle⟩

/-- What criteria ask of a store. -/
def resolve (identify : IndexValue → Bytes) (schema : Schema) (keyspace : Keyspace)
    (criteria : Criteria) : Querying Plan := do
  let all ← resolveAll identify schema keyspace criteria.all.toList
  let any ← resolveAny identify schema keyspace criteria.any.toList
  let near? ← resolveNear schema keyspace criteria.near?
  report (.queryPlanned all.direct.length all.keys.length any.direct.length any.keys.length
    near?.isSome)
  return ⟨all, any, near?⟩

end Plan

end SecondaryIndex
