/-
**What happens inside an operation, as a log shows it.**

* an `Event` is something that happened, with the facts about it;
* `Event.message` is its wording, `Event.facts` its facts in the order of their names;
* an `Observation` is an event or a measured query, `Metrics` the running totals of the latter.
-/

import SecondaryIndex.Collections.InsertionMap
import SecondaryIndex.Record

namespace SecondaryIndex

/-- Something that happened inside an operation. -/
inductive Event where
  | entityFlattened (keyspace : Keyspace) (fields indexes : Nat)
  | insertingEntity (keyspace : Keyspace) (indexes : Nat)
  /-- An entity was stored; a remote store also tells how many old index keys it dropped. -/
  | entityWritten (store : String) (keyspace : Keyspace) (indexes : Nat) (stale : Option Nat)
  /-- A local store removed an entity. -/
  | entityRemoved (store : String) (keyspace : Keyspace) (existed : Bool)
  /-- A remote store removed an entity. -/
  | entityErased (store : String) (keyspace : Keyspace) (deleted : Nat)
  | deleteFinished (keyspace : Keyspace) (status : DeleteStatus)
  | predicatesSelected (entity : String) (direct sets : Nat)
  | queryPlanned (allDirect allKeys anyDirect anyKeys : Nat) (near : Bool)
  | idsCollected (ids : Nat)
  | idSkipped (id : Bytes)
  | pageFetched (entities : Nat)
  | counted (all any : Nat)
  | connectionRequested
  | connectionOpened
  | setsRead (command : String) (keys members : Nat)
deriving DecidableEq

namespace Event

/-- The wording of an event. -/
def message : Event → String
  | .entityFlattened .. => "Entity flattened"
  | .insertingEntity .. => "Inserting entity"
  | .entityWritten .. => "Entity written"
  | .entityRemoved .. => "Entity deleted"
  | .entityErased .. => "Entity deleted"
  | .deleteFinished .. => "Entity delete"
  | .predicatesSelected .. => "Predicates selected"
  | .queryPlanned .. => "Query planned"
  | .idsCollected .. => "Ids collected"
  | .idSkipped .. => "Skipping id without hash"
  | .pageFetched .. => "Fetched whole keyspace page"
  | .counted .. => "Counted"
  | .connectionRequested => "Get connection manager"
  | .connectionOpened => "Initialize new redis connection manager"
  | .setsRead .. => "Set lookup"

/-- The word for a truth value. -/
def word (value : Bool) : String :=
  if value then "true" else "false"

/-- The facts of an event, by name. -/
def facts : Event → List (String × String)
  | .entityFlattened keyspace fields indexes =>
    [("fields", toString fields), ("indexes", toString indexes), ("keyspace", keyspace.name)]
  | .insertingEntity keyspace indexes =>
    [("indexes", toString indexes), ("keyspace", keyspace.name)]
  | .entityWritten store keyspace indexes stale =>
    [("indexes", toString indexes), ("keyspace", keyspace.name)] ++
      (stale.toList.map fun count => ("stale", toString count)) ++ [("store", store)]
  | .entityRemoved store keyspace existed =>
    [("existed", word existed), ("keyspace", keyspace.name), ("store", store)]
  | .entityErased store keyspace deleted =>
    [("deleted", toString deleted), ("keyspace", keyspace.name), ("store", store)]
  | .deleteFinished keyspace status => [("keyspace", keyspace.name), ("status", status.word)]
  | .predicatesSelected entity direct sets =>
    [("entity", entity), ("keys", toString direct), ("set_keys", toString sets)]
  | .queryPlanned allDirect allKeys anyDirect anyKeys near =>
    [("and_direct", toString allDirect), ("and_keys", toString allKeys), ("near", word near),
      ("or_direct", toString anyDirect), ("or_keys", toString anyKeys)]
  | .idsCollected ids => [("ids", toString ids)]
  | .idSkipped id => [("id", id.quoted)]
  | .pageFetched entities => [("entities", toString entities)]
  | .counted all any => [("and", toString all), ("or", toString any)]
  | .connectionRequested => []
  | .connectionOpened => []
  | .setsRead command keys members =>
    [("command", command), ("keys", toString keys), ("members", toString members)]

end Event

/-- What an operation lets be seen of itself. -/
inductive Observation where
  | event (event : Event)
  /-- A query for entities ended, so many of its ids without fields. -/
  | searched (keyspace : Keyspace) (missing : Nat)
  /-- A query for a number began. -/
  | tallied (keyspace : Keyspace)
deriving DecidableEq

/-- What is totalled, for each keyspace. -/
inductive Counter where
  | searches
  | searchDurations
  | tallies
  | missingEntities
deriving DecidableEq

/-- The name of a total. -/
def Counter.name : Counter → String
  | .searches => "indexbox_query_find_total"
  | .searchDurations => "indexbox_query_find_duration_seconds"
  | .tallies => "indexbox_query_count_total"
  | .missingEntities => "indexbox_query_missing_entities_total"

/-- Running totals. -/
structure Metrics where
  totals : InsertionMap (Counter × Keyspace) Nat

namespace Metrics

/-- No totals yet. -/
def empty : Metrics :=
  ⟨∅⟩

/-- The total of a counter for a keyspace. -/
def total (metrics : Metrics) (counter : Counter) (keyspace : Keyspace) : Nat :=
  (metrics.totals.get? (counter, keyspace)).getD 0

/-- The totals with an amount added to one of them; nothing added leaves no trace. -/
def add (metrics : Metrics) (counter : Counter) (keyspace : Keyspace) (amount : Nat) : Metrics :=
  if amount = 0 then metrics
  else ⟨metrics.totals.insert (counter, keyspace) (metrics.total counter keyspace + amount)⟩

/-- The totals after an observation. -/
def observe (metrics : Metrics) : Observation → Metrics
  | .event _ => metrics
  | .searched keyspace missing =>
    ((metrics.add .searches keyspace 1).add .searchDurations keyspace 1).add
      .missingEntities keyspace missing
  | .tallied keyspace => metrics.add .tallies keyspace 1

/-- The totals by name and keyspace, in byte order. -/
def listed (metrics : Metrics) : List (String × String × Nat) :=
  (metrics.totals.entries.map fun ((counter, keyspace), total) =>
    (counter.name, keyspace.name, total)).mergeSort fun first second =>
      first.1 < second.1 || (first.1 = second.1 && first.2.1 ≤ second.2.1)

end Metrics

end SecondaryIndex
