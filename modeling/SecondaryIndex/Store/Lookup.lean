/-
**Answering questions from a store.**

* `intersect` and `union` combine sets, in the order of the first set and in the order of first
  sight (`mem_intersect`, `mem_union`);
* `within` looks up the members of a circle, the nearest ones if their number is limited;
* `get?`, `pageOf` and `count` read entities of one keyspace. An id whose fields are gone is no
  entity, but it still counts.
-/

import SecondaryIndex.Geo.Nearest
import SecondaryIndex.Page
import SecondaryIndex.Store.Basic

namespace SecondaryIndex.Store

/-! ### Sets -/

/-- The members that all sets have, in the order of the first set; nothing for no sets. -/
def intersect (store : Store) : List Bytes → List Bytes
  | [] => []
  | key :: rest =>
    (store.members key).toList.filter fun member =>
      rest.all fun other => member ∈ store.members other

/-- The members of any of the sets, each where it is seen first. -/
def union (store : Store) (keys : List Bytes) : List Bytes :=
  (InsertionSet.ofList (keys.flatMap fun key => (store.members key).toList)).toList

theorem mem_intersect {store : Store} {keys : List Bytes} {member : Bytes} (some : keys ≠ []) :
    member ∈ store.intersect keys ↔ ∀ key ∈ keys, member ∈ store.members key := by
  cases keys with
  | nil => exact absurd rfl some
  | cons key rest => simp [intersect, InsertionSet.mem_def]

theorem mem_union {store : Store} {keys : List Bytes} {member : Bytes} :
    member ∈ store.union keys ↔ ∃ key ∈ keys, member ∈ store.members key := by
  rw [union, ← InsertionSet.mem_def, InsertionSet.mem_ofList, List.mem_flatMap]
  rfl

/-! ### Positions -/

/-- Members with their distances from a point. -/
def measured (center : Point) (points : InsertionMap Bytes Point) : List (Bytes × Float) :=
  points.entries.map fun (member, point) => (member, center.distance point)

/-- The members inside a circle; with a limit, the nearest of them. -/
def within (store : Store) (key : Bytes) (circle : Circle) (limit : Option Nat) : List Bytes :=
  reached circle.radius.inMeters limit (measured circle.center (store.positionsAt key))

/-! ### Entities -/

/-- The record of an id, unless it has no fields. -/
def get? (store : Store) (keyspace : Keyspace) (id : Bytes) : Option Record :=
  let fields := store.fieldsAt (keyspace.entityKey id)
  if fields.isEmpty then none else some ⟨id, keyspace, fields⟩

/-- The records of a page of the registered ids, without those that have no fields. -/
def pageOf (store : Store) (keyspace : Keyspace) (page : Page) : List Record :=
  (page.apply (store.members keyspace.registryKey).toList).filterMap (store.get? keyspace)

/-- How many ids are registered. -/
def count (store : Store) (keyspace : Keyspace) : Nat :=
  (store.members keyspace.registryKey).size

end SecondaryIndex.Store
