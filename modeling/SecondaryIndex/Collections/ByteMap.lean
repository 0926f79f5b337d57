/-
**A finite map from byte strings, listed in byte order of its keys.**

* `get?_insert` and `get?_erase` say what the two updates do to every key;
* `ext_get?` says that a map is determined by what it holds at each key, so two histories that
  leave the same content leave the same map;
* `mem_entries` ties the listed entries to the keys.
-/

import SecondaryIndex.Bytes
import SecondaryIndex.Collections.Entries

namespace SecondaryIndex

/-- A finite map from byte strings, its entries in strictly increasing order of their keys. -/
structure ByteMap (α : Type) where
  /-- The keys with their values, in byte order. -/
  entries : List (Bytes × α)
  /-- Every key comes before those listed after it. -/
  sorted : entries.Pairwise (fun first second => first.1 < second.1)
deriving DecidableEq

namespace ByteMap

open Entries

variable {α : Type}

/-! ### Entry lists -/

/-- Puts a value at a key into an ordered entry list, in one pass. -/
def insertEntry (key : Bytes) (value : α) : List (Bytes × α) → List (Bytes × α)
  | [] => [(key, value)]
  | (other, held) :: rest =>
    if key < other then (key, value) :: (other, held) :: rest
    else if key = other then (key, value) :: rest
    else (other, held) :: insertEntry key value rest

theorem mem_insertEntry {key : Bytes} {value : α} {entry : Bytes × α} {entries : List (Bytes × α)}
    (member : entry ∈ insertEntry key value entries) : entry = (key, value) ∨ entry ∈ entries := by
  induction entries with
  | nil => simpa [insertEntry] using member
  | cons head rest ih =>
    obtain ⟨other, held⟩ := head
    rw [insertEntry] at member
    split at member
    · simpa using member
    · split at member
      · rcases List.mem_cons.mp member with same | later
        · exact .inl same
        · exact .inr (List.mem_cons_of_mem _ later)
      · rcases List.mem_cons.mp member with same | later
        · exact .inr (same ▸ List.mem_cons_self)
        · exact (ih later).imp id (List.mem_cons_of_mem _)

theorem sorted_insertEntry (key : Bytes) (value : α) {entries : List (Bytes × α)}
    (sorted : entries.Pairwise fun first second => first.1 < second.1) :
    (insertEntry key value entries).Pairwise fun first second => first.1 < second.1 := by
  induction entries with
  | nil => simp [insertEntry]
  | cons head rest ih =>
    obtain ⟨other, held⟩ := head
    rw [List.pairwise_cons] at sorted
    obtain ⟨before, ordered⟩ := sorted
    rw [insertEntry]
    split
    · rename_i less
      refine List.pairwise_cons.mpr ⟨?_, List.pairwise_cons.mpr ⟨before, ordered⟩⟩
      intro entry member
      rcases List.mem_cons.mp member with same | later
      · exact same ▸ less
      · exact List.lt_trans less (before entry later)
    · rename_i notLess
      split
      · rename_i same
        exact List.pairwise_cons.mpr ⟨same ▸ before, ordered⟩
      · rename_i different
        refine List.pairwise_cons.mpr ⟨?_, ih ordered⟩
        intro entry member
        rcases mem_insertEntry member with same | later
        · subst same
          apply Classical.byContradiction
          intro notGreater
          exact different (List.le_antisymm (List.not_lt.mp notGreater) (List.not_lt.mp notLess))
        · exact before entry later

theorem lookup_insertEntry (key other : Bytes) (value : α) (entries : List (Bytes × α)) :
    (insertEntry key value entries).lookup other =
      if other = key then some value else entries.lookup other := by
  induction entries with
  | nil => simp [insertEntry, lookup_cons_eq]
  | cons head rest ih =>
    obtain ⟨first, held⟩ := head
    rw [insertEntry]
    split
    · rw [lookup_cons_eq]
    · split
      · rename_i equal
        subst equal
        rw [lookup_cons_eq, lookup_cons_eq]
        split <;> rfl
      · rename_i different
        rw [lookup_cons_eq, lookup_cons_eq, ih]
        by_cases same : other = first
        · simp [same, Ne.symm different]
        · simp [same]

theorem lookup_eq_some_iff_mem {entries : List (Bytes × α)} {key : Bytes} {value : α}
    (sorted : entries.Pairwise fun first second => first.1 < second.1) :
    entries.lookup key = some value ↔ (key, value) ∈ entries := by
  induction entries with
  | nil => simp
  | cons head rest ih =>
    obtain ⟨first, held⟩ := head
    rw [List.pairwise_cons] at sorted
    rw [lookup_cons_eq, List.mem_cons, ← ih sorted.2]
    by_cases same : key = first
    · subst same
      have absent : rest.lookup key ≠ some value := fun found =>
        List.lt_irrefl key (sorted.1 _ ((ih sorted.2).mp found))
      simp [absent, eq_comm]
    · simp [same]

/-! ### Maps -/

/-- The map without entries. -/
def empty : ByteMap α :=
  ⟨[], List.Pairwise.nil⟩

instance : EmptyCollection (ByteMap α) := ⟨empty⟩

instance : Inhabited (ByteMap α) := ⟨empty⟩

/-- The value held at a key. -/
def get? (map : ByteMap α) (key : Bytes) : Option α :=
  map.entries.lookup key

/-- The map that holds a value at a key, whatever was there before. -/
def insert (map : ByteMap α) (key : Bytes) (value : α) : ByteMap α :=
  ⟨insertEntry key value map.entries, sorted_insertEntry key value map.sorted⟩

/-- The map that holds nothing at a key. -/
def erase (map : ByteMap α) (key : Bytes) : ByteMap α :=
  ⟨map.entries.filter (·.1 ≠ key), map.sorted.filter _⟩

/-- The entries of a list, a later one replacing an earlier one of the same key. -/
def ofList (entries : List (Bytes × α)) : ByteMap α :=
  entries.foldl (fun map entry => map.insert entry.1 entry.2) ∅

/-- The number of keys. -/
def size (map : ByteMap α) : Nat :=
  map.entries.length

/-- No key holds anything. -/
def isEmpty (map : ByteMap α) : Bool :=
  map.entries.isEmpty

/-- Some value is held at the key. -/
def contains (map : ByteMap α) (key : Bytes) : Bool :=
  (map.get? key).isSome

@[simp] theorem get?_empty (key : Bytes) : (∅ : ByteMap α).get? key = none := rfl

@[simp] theorem get?_insert (map : ByteMap α) (key other : Bytes) (value : α) :
    (map.insert key value).get? other = if other = key then some value else map.get? other :=
  lookup_insertEntry key other value map.entries

@[simp] theorem get?_erase (map : ByteMap α) (key other : Bytes) :
    (map.erase key).get? other = if other = key then none else map.get? other :=
  lookup_filter_ne key other map.entries

/-- The listed entries are what the keys hold. -/
theorem mem_entries {map : ByteMap α} {key : Bytes} {value : α} :
    (key, value) ∈ map.entries ↔ map.get? key = some value :=
  (lookup_eq_some_iff_mem map.sorted).symm

/-- Two ordered entry lists that hold the same at each key are equal. -/
theorem entries_eq_of_lookup {first second : List (Bytes × α)}
    (firstSorted : first.Pairwise fun one other => one.1 < other.1)
    (secondSorted : second.Pairwise fun one other => one.1 < other.1)
    (equal : ∀ key, first.lookup key = second.lookup key) : first = second := by
  induction first generalizing second with
  | nil =>
    cases second with
    | nil => rfl
    | cons head rest =>
      have found := equal head.1
      rw [← Prod.eta head, lookup_cons_eq, if_pos rfl] at found
      exact absurd found (by simp)
  | cons head rest ih =>
    obtain ⟨key, value⟩ := head
    cases second with
    | nil =>
      have found := equal key
      rw [lookup_cons_eq, if_pos rfl] at found
      exact absurd found (by simp)
    | cons head' rest' =>
      obtain ⟨key', value'⟩ := head'
      rw [List.pairwise_cons] at firstSorted secondSorted
      have inSecond : (key, value) ∈ (key', value') :: rest' :=
        (lookup_eq_some_iff_mem (List.pairwise_cons.mpr secondSorted)).mp (by
          rw [← equal key, lookup_cons_eq, if_pos rfl])
      have inFirst : (key', value') ∈ (key, value) :: rest :=
        (lookup_eq_some_iff_mem (List.pairwise_cons.mpr firstSorted)).mp (by
          rw [equal key', lookup_cons_eq, if_pos rfl])
      have same : (key, value) = (key', value') := by
        rcases List.mem_cons.mp inSecond with same | later
        · exact same
        · rcases List.mem_cons.mp inFirst with same | later'
          · exact same.symm
          · exact absurd (secondSorted.1 _ later) (List.not_lt.mpr
              (List.le_of_lt (firstSorted.1 _ later')))
      obtain ⟨rfl, rfl⟩ := Prod.mk.inj same
      rw [ih firstSorted.2 secondSorted.2]
      intro other
      have found := equal other
      rw [lookup_cons_eq, lookup_cons_eq] at found
      by_cases here : other = key
      · subst here
        have absent : ∀ {list : List (Bytes × α)}, (∀ entry ∈ list, other < entry.1) →
            list.lookup other = none := by
          intro list later
          rw [List.lookup_eq_none_iff]
          intro entry member
          have differs : other ≠ entry.1 := fun same =>
            List.lt_irrefl other (same ▸ later entry member)
          simpa using differs
        rw [absent firstSorted.1, absent secondSorted.1]
      · simpa [here] using found

/-- A map is determined by what it holds at each key. -/
theorem ext_get? {first second : ByteMap α} (equal : ∀ key, first.get? key = second.get? key) :
    first = second := by
  have entriesEqual := entries_eq_of_lookup first.sorted second.sorted equal
  cases first
  cases second
  simp_all

end ByteMap

end SecondaryIndex
