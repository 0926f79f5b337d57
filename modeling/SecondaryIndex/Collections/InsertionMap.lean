/-
**A finite map that remembers the order in which its keys arrived.**

* `insert` replaces the value of a known key in place and appends a new key (`get?_insert`);
* `erase` closes the gap and keeps the order of the others (`get?_erase`), and undoes an insertion
  (`erase_insert`);
* `mem_entries` ties the listed entries to the keys.
-/

import SecondaryIndex.Collections.Entries

namespace SecondaryIndex

/-- A finite map whose entries are listed in order of arrival of their keys. -/
structure InsertionMap (κ α : Type) where
  /-- The keys with their values, oldest key first. -/
  entries : List (κ × α)
  /-- No key is listed twice. -/
  nodup : (entries.map Prod.fst).Nodup

namespace InsertionMap

open Entries

variable {κ α : Type}

@[ext] theorem ext {first second : InsertionMap κ α} (equal : first.entries = second.entries) :
    first = second := by
  cases first
  cases second
  simp_all

/-- The map without entries. -/
def empty : InsertionMap κ α :=
  ⟨[], List.nodup_nil⟩

instance : EmptyCollection (InsertionMap κ α) := ⟨empty⟩

instance : Inhabited (InsertionMap κ α) := ⟨empty⟩

/-- The keys, oldest first. -/
def keys (map : InsertionMap κ α) : List κ :=
  map.entries.map Prod.fst

/-- No key holds anything. -/
def isEmpty (map : InsertionMap κ α) : Bool :=
  map.entries.isEmpty

theorem isEmpty_iff {map : InsertionMap κ α} : map.isEmpty = true ↔ map = ∅ := by
  rw [isEmpty, List.isEmpty_iff]
  exact ⟨fun none => ext none, fun none => none ▸ rfl⟩

variable [DecidableEq κ]

/-! ### Entry lists -/

/-- Sets a key in an entry list, in place or at the end. -/
def insertEntry (key : κ) (value : α) : List (κ × α) → List (κ × α)
  | [] => [(key, value)]
  | (other, held) :: rest =>
    if key = other then (key, value) :: rest else (other, held) :: insertEntry key value rest

theorem mem_keys_insertEntry (key : κ) (value : α) (entries : List (κ × α)) (other : κ) :
    other ∈ (insertEntry key value entries).map Prod.fst ↔
      other = key ∨ other ∈ entries.map Prod.fst := by
  induction entries with
  | nil => simp [insertEntry]
  | cons head rest ih =>
    obtain ⟨first, held⟩ := head
    rw [insertEntry]
    split
    · rename_i same
      subst same
      simp
    · rw [List.map_cons, List.mem_cons, ih, List.map_cons, List.mem_cons, or_left_comm]

theorem nodup_insertEntry (key : κ) (value : α) {entries : List (κ × α)}
    (nodup : (entries.map Prod.fst).Nodup) :
    ((insertEntry key value entries).map Prod.fst).Nodup := by
  induction entries with
  | nil => simp [insertEntry]
  | cons head rest ih =>
    obtain ⟨first, held⟩ := head
    rw [List.map_cons, List.nodup_cons] at nodup
    rw [insertEntry]
    split
    · rename_i same
      subst same
      exact List.nodup_cons.mpr nodup
    · rename_i different
      rw [List.map_cons, List.nodup_cons, mem_keys_insertEntry]
      exact ⟨fun either => either.elim (fun same => different same.symm) nodup.1, ih nodup.2⟩

theorem lookup_insertEntry (key other : κ) (value : α) (entries : List (κ × α)) :
    (insertEntry key value entries).lookup other =
      if other = key then some value else entries.lookup other := by
  induction entries with
  | nil => simp [insertEntry, lookup_cons_eq]
  | cons head rest ih =>
    obtain ⟨first, held⟩ := head
    rw [insertEntry]
    split
    · rename_i same
      subst same
      rw [lookup_cons_eq, lookup_cons_eq]
      split <;> rfl
    · rename_i different
      rw [lookup_cons_eq, lookup_cons_eq, ih]
      by_cases same : other = first
      · simp [same, Ne.symm different]
      · simp [same]

/-! ### Maps -/

/-- The value held at a key. -/
def get? (map : InsertionMap κ α) (key : κ) : Option α :=
  map.entries.lookup key

/-- The map that holds a value at a key; a known key keeps its place. -/
def insert (map : InsertionMap κ α) (key : κ) (value : α) : InsertionMap κ α :=
  ⟨insertEntry key value map.entries, nodup_insertEntry key value map.nodup⟩

/-- The map that holds nothing at a key. -/
def erase (map : InsertionMap κ α) (key : κ) : InsertionMap κ α :=
  ⟨map.entries.filter (·.1 ≠ key),
    List.Nodup.sublist (List.filter_sublist.map Prod.fst) map.nodup⟩

@[simp] theorem get?_empty (key : κ) : (∅ : InsertionMap κ α).get? key = none := rfl

@[simp] theorem get?_insert (map : InsertionMap κ α) (key other : κ) (value : α) :
    (map.insert key value).get? other = if other = key then some value else map.get? other :=
  lookup_insertEntry key other value map.entries

@[simp] theorem get?_erase (map : InsertionMap κ α) (key other : κ) :
    (map.erase key).get? other = if other = key then none else map.get? other :=
  lookup_filter_ne key other map.entries

theorem erase_of_get?_eq_none {map : InsertionMap κ α} {key : κ} (absent : map.get? key = none) :
    map.erase key = map := by
  refine ext (List.filter_eq_self.mpr fun entry listed => decide_eq_true fun same => ?_)
  have found := List.lookup_eq_none_iff.mp absent entry listed
  simp [same] at found

theorem erase_erase (map : InsertionMap κ α) (key : κ) :
    (map.erase key).erase key = map.erase key :=
  erase_of_get?_eq_none (by simp)

theorem filter_insertEntry (key : κ) (value : α) (entries : List (κ × α)) :
    (insertEntry key value entries).filter (·.1 ≠ key) = entries.filter (·.1 ≠ key) := by
  induction entries with
  | nil => simp [insertEntry]
  | cons head rest ih =>
    obtain ⟨first, held⟩ := head
    rw [insertEntry]
    split
    · rename_i same
      simp [same]
    · rw [List.filter_cons, List.filter_cons, ih]

theorem erase_insert (map : InsertionMap κ α) (key : κ) (value : α) :
    (map.insert key value).erase key = map.erase key :=
  ext (filter_insertEntry key value map.entries)

/-- The listed entries are what the keys hold. -/
theorem mem_entries {map : InsertionMap κ α} {key : κ} {value : α} :
    (key, value) ∈ map.entries ↔ map.get? key = some value := by
  obtain ⟨entries, nodup⟩ := map
  simp only [get?]
  induction entries with
  | nil => simp
  | cons head rest ih =>
    obtain ⟨first, held⟩ := head
    rw [List.map_cons, List.nodup_cons] at nodup
    rw [List.mem_cons, lookup_cons_eq, ih nodup.2]
    by_cases same : key = first
    · subst same
      have absent : rest.lookup key ≠ some value := fun found =>
        nodup.1 (List.mem_map.mpr ⟨_, (ih nodup.2).mpr found, rfl⟩)
      simp [absent, eq_comm]
    · simp [same]

end InsertionMap

end SecondaryIndex
