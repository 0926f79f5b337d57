/-
**The entities of one type: stored, loaded, removed, looked for and counted.**

* `insert`, `findById` and `delete` work on single entities;
* `find` collects ids from three places, those that meet all of a group, those that meet one of a
  group and those within a circle. Each id counts where it is seen first; a page is cut from the
  ids, the fields of that page are fetched, and ids without fields are passed over;
* the sorting of a query orders the page, not the whole result;
* `count` adds up the sizes of the two groups, so an id in both of them counts twice, and a circle
  does not contribute.
-/

import SecondaryIndex.Entity.Flat
import SecondaryIndex.Query.Plan
import SecondaryIndex.Sorting

namespace SecondaryIndex

/-- The entities of one type. -/
structure Catalogue where
  type : EntityType
  /-- The id that a value stands for. -/
  identify : IndexValue → Bytes

namespace Catalogue

/-- The schema of the entities. -/
def schema (catalogue : Catalogue) : Schema :=
  catalogue.type.schema

/-- The keyspace of the entities. -/
def keyspace (catalogue : Catalogue) : Keyspace :=
  catalogue.schema.keyspace

/-- The entity of a record. -/
def load (catalogue : Catalogue) (record : Record) : Querying Json :=
  .ofExcept ((catalogue.type.read record).mapError .conversion)

/-! ### Single entities -/

/-- Stores an entity in place of any earlier version. -/
def insert (catalogue : Catalogue) (entity : Entity) : Querying Unit := do
  let write ← .ofExcept ((entity.write catalogue.schema).mapError .conversion)
  report (.entityFlattened write.keyspace write.record.fields.size write.indexes.length)
  report (.insertingEntity write.keyspace write.indexes.length)
  call (.put write)

/-- The entity with an id. -/
def findById (catalogue : Catalogue) (id : IndexValue) : Querying (Option Json) := do
  match ← call (.get catalogue.keyspace (catalogue.identify id)) with
  | none => return none
  | some record => return some (← catalogue.load record)

/-- Removes the entity with an id. -/
def delete (catalogue : Catalogue) (id : IndexValue) : Querying DeleteStatus := do
  let status ← call
    (.delete catalogue.keyspace (catalogue.identify id) catalogue.schema.geoPaths)
  report (.deleteFinished catalogue.keyspace status)
  return status

/-! ### Ids that criteria name -/

/-- The members that all sets of a group have; no sets, no call. -/
def common (group : Group) : Querying (List Bytes) :=
  if group.keys.isEmpty then return [] else call (.intersect group.keys)

/-- The members that any set of a group has; no sets, no call. -/
def joint (group : Group) : Querying (List Bytes) :=
  if group.keys.isEmpty then return [] else call (.union group.keys)

/-- The ids within an area, so many of them at most. -/
def inArea (limit : Option Nat) : Option Area → Querying (List Bytes)
  | none => return []
  | some area => call (.within area.key area.circle limit)

/-- The ids of a plan, each where it is seen first. -/
def collect (plan : Plan) (limit : Option Nat) : Querying (List Bytes) := do
  let common ← common plan.all
  let joint ← joint plan.any
  let close ← inArea limit plan.near?
  return (InsertionSet.ofList
    (common ++ plan.all.direct ++ (joint ++ plan.any.direct) ++ close)).toList

/-! ### Looking for entities -/

/-- The entities of fetched ids, and the number of ids without fields. -/
def loadAll (catalogue : Catalogue) (keyspace : Keyspace) :
    List (Bytes × Fields) → Querying (List Json × Nat)
  | [] => return ([], 0)
  | (id, fields) :: rest =>
    if fields.isEmpty then do
      report (.idSkipped id)
      let (entities, missing) ← catalogue.loadAll keyspace rest
      return (entities, missing + 1)
    else do
      let entity ← catalogue.load ⟨id, keyspace, fields⟩
      let (entities, missing) ← catalogue.loadAll keyspace rest
      return (entity :: entities, missing)

/-- A page of all entities of a keyspace; ids that a store passes over are not known here. -/
def findPage (catalogue : Catalogue) (keyspace : Keyspace) (page : Page) :
    Querying (List Json × Nat) := do
  let records ← call (.pageOf keyspace page)
  report (.pageFetched records.length)
  return (← records.mapM catalogue.load, 0)

/-- A page of the entities that a plan names, and the number of its ids without fields. -/
def findPlanned (catalogue : Catalogue) (keyspace : Keyspace) (plan : Plan) (page : Page) :
    Querying (List Json × Nat) := do
  call .connection
  let ids ← collect plan (page.rows.map UInt64.toNat)
  report (.idsCollected ids.length)
  let ids := page.apply ids
  let fetched ← call (.fieldsOf (ids.map keyspace.entityKey))
  catalogue.loadAll keyspace (ids.zip fetched)

/-- The entities of a keyspace that meet the criteria: a page of them, then sorted. -/
def findIn (catalogue : Catalogue) (keyspace : Keyspace) (criteria : Criteria)
    (sorting : Option (Sorting Json)) (page : Page) : Querying (List Json) := do
  let (entities, missing) ←
    if criteria.isEmpty then catalogue.findPage keyspace page
    else do
      let plan ← Plan.resolve catalogue.identify catalogue.schema keyspace criteria
      catalogue.findPlanned keyspace plan page
  Dialogue.observe (.searched keyspace missing)
  return sorting.elim entities fun sorting => sorting.apply entities

/-- The entities that meet the criteria: a page of them, then sorted. -/
def find (catalogue : Catalogue) (criteria : Criteria) (sorting : Option (Sorting Json))
    (page : Page) : Querying (List Json) :=
  catalogue.findIn catalogue.keyspace criteria sorting page

/-- A page of all entities. -/
def findAll (catalogue : Catalogue) (page : Page) : Querying (List Json) :=
  catalogue.find .empty none page

/-! ### Counting entities -/

/-- Those of some ids that have fields; no ids, no call. -/
def stored (keyspace : Keyspace) (ids : List Bytes) : Querying (List Bytes) :=
  if ids.isEmpty then return []
  else do
    let fetched ← call (.fieldsOf (ids.map keyspace.entityKey))
    return ((ids.zip fetched).filter fun (_, fields) => !fields.isEmpty).map Prod.fst

/-- How many ids a group has; those that need no look-up count if they have fields. -/
def countGroup (keyspace : Keyspace) (group : Group) (members : Querying (List Bytes)) :
    Querying Nat := do
  let members ← members
  let direct ← stored keyspace group.direct
  return (InsertionSet.ofList (members ++ direct)).size

/-- The number of entities of a keyspace that meet the criteria, group by group. -/
def countIn (catalogue : Catalogue) (keyspace : Keyspace) (criteria : Criteria) : Querying Nat := do
  Dialogue.observe (.tallied keyspace)
  if criteria.isEmpty then call (.count keyspace)
  else do
    let plan ← Plan.resolve catalogue.identify catalogue.schema keyspace criteria
    call .connection
    let all ← countGroup keyspace plan.all (common plan.all)
    let any ← countGroup keyspace plan.any (joint plan.any)
    report (.counted all any)
    return all + any

/-- The number of entities that meet the criteria, group by group. -/
def count (catalogue : Catalogue) (criteria : Criteria) : Querying Nat :=
  catalogue.countIn catalogue.keyspace criteria

end Catalogue

end SecondaryIndex
