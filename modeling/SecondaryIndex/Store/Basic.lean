/-
**A store: three tables of keys, for fields, for sets and for positions.**

* `fieldsAt`, `members` and `positionsAt` read a key, and a missing key reads as an empty value;
* `setMembers` and `setPositions` let a key vanish together with its last member, so a missing key
  and an empty collection cannot be told apart;
* `members_setMembers` and `positionsAt_setPositions` say what an update does to every key.
-/

import SecondaryIndex.Collections.InsertionMap
import SecondaryIndex.Collections.InsertionSet
import SecondaryIndex.Record

namespace SecondaryIndex

/-- The content of a store. -/
structure Store where
  /-- The fields of entities. -/
  fields : ByteMap Fields
  /-- Registries, index sets and the sets of index keys of single entities. -/
  sets : ByteMap (InsertionSet Bytes)
  /-- Ids with their positions. -/
  positions : ByteMap (InsertionMap Bytes Point)

namespace Store

@[ext] theorem ext {first second : Store} (fields : first.fields = second.fields)
    (sets : first.sets = second.sets) (positions : first.positions = second.positions) :
    first = second := by
  cases first
  cases second
  simp_all

/-- The store without keys. -/
def empty : Store :=
  ⟨∅, ∅, ∅⟩

/-! ### Reading a key -/

/-- The fields at a key. -/
def fieldsAt (store : Store) (key : Bytes) : Fields :=
  (store.fields.get? key).getD ∅

/-- The set at a key. -/
def members (store : Store) (key : Bytes) : InsertionSet Bytes :=
  (store.sets.get? key).getD ∅

/-- The positions at a key. -/
def positionsAt (store : Store) (key : Bytes) : InsertionMap Bytes Point :=
  (store.positions.get? key).getD ∅

/-- The position of a member. -/
def position? (store : Store) (key member : Bytes) : Option Point :=
  (store.positionsAt key).get? member

/-- Something is stored at the key, in any of the tables. -/
def contains (store : Store) (key : Bytes) : Bool :=
  store.fields.contains key || store.sets.contains key || store.positions.contains key

/-! ### Changing a key -/

/-- The store with other fields at a key. -/
def setFields (store : Store) (key : Bytes) (fields : Fields) : Store :=
  { store with fields := store.fields.insert key fields }

/-- The store without fields at a key. -/
def dropFields (store : Store) (key : Bytes) : Store :=
  { store with fields := store.fields.erase key }

/-- The store with another set at a key, none if the set is empty. -/
def setMembers (store : Store) (key : Bytes) (set : InsertionSet Bytes) : Store :=
  { store with sets := if set.isEmpty then store.sets.erase key else store.sets.insert key set }

/-- The store without a set at a key. -/
def dropSet (store : Store) (key : Bytes) : Store :=
  { store with sets := store.sets.erase key }

/-- The store with a further member of the set at a key. -/
def addMember (store : Store) (key member : Bytes) : Store :=
  store.setMembers key ((store.members key).insert member)

/-- The store without a member of the set at a key. -/
def removeMember (store : Store) (key member : Bytes) : Store :=
  store.setMembers key ((store.members key).erase member)

/-- The store with other positions at a key, none if there are none. -/
def setPositions (store : Store) (key : Bytes) (points : InsertionMap Bytes Point) : Store :=
  { store with
    positions :=
      if points.isEmpty then store.positions.erase key else store.positions.insert key points }

/-- The store with a member at a point; a known member keeps its place among the others. -/
def setPosition (store : Store) (key member : Bytes) (point : Point) : Store :=
  store.setPositions key ((store.positionsAt key).insert member point)

/-- The store without a member among the positions at a key. -/
def removePosition (store : Store) (key member : Bytes) : Store :=
  store.setPositions key ((store.positionsAt key).erase member)

/-! ### What a change does to every key -/

@[simp] theorem fieldsAt_setFields (store : Store) (key other : Bytes) (fields : Fields) :
    (store.setFields key fields).fieldsAt other =
      if other = key then fields else store.fieldsAt other := by
  rw [fieldsAt, setFields, ByteMap.get?_insert]
  split <;> rfl

@[simp] theorem fieldsAt_dropFields (store : Store) (key other : Bytes) :
    (store.dropFields key).fieldsAt other = if other = key then ∅ else store.fieldsAt other := by
  rw [fieldsAt, dropFields, ByteMap.get?_erase]
  split <;> rfl

@[simp] theorem members_setMembers (store : Store) (key other : Bytes) (set : InsertionSet Bytes) :
    (store.setMembers key set).members other =
      if other = key then set else store.members other := by
  rw [members, setMembers]
  split
  · rename_i none
    rw [ByteMap.get?_erase, InsertionSet.isEmpty_iff.mp none]
    split <;> rfl
  · rw [ByteMap.get?_insert]
    split <;> rfl

@[simp] theorem members_dropSet (store : Store) (key other : Bytes) :
    (store.dropSet key).members other = if other = key then ∅ else store.members other := by
  rw [members, dropSet, ByteMap.get?_erase]
  split <;> rfl

@[simp] theorem positionsAt_setPositions (store : Store) (key other : Bytes)
    (points : InsertionMap Bytes Point) :
    (store.setPositions key points).positionsAt other =
      if other = key then points else store.positionsAt other := by
  rw [positionsAt, setPositions]
  split
  · rename_i none
    rw [ByteMap.get?_erase, InsertionMap.isEmpty_iff.mp none]
    split <;> rfl
  · rw [ByteMap.get?_insert]
    split <;> rfl

end Store

end SecondaryIndex
