/-
**A finite set that remembers the order in which its members arrived.**

* `insert` appends a new member and leaves a known one where it is (`mem_insert`);
* `erase` closes the gap and keeps the order of the others (`mem_erase`), and undoes an insertion
  (`erase_insert`);
* `insertAll` and `ofList` keep the first occurrence of each item (`mem_insertAll`, `mem_ofList`).
-/

namespace SecondaryIndex

/-- A finite set whose members are listed in order of arrival. -/
structure InsertionSet (α : Type) where
  /-- The members, oldest first. -/
  toList : List α
  /-- No member is listed twice. -/
  nodup : toList.Nodup
deriving DecidableEq

namespace InsertionSet

variable {α : Type}

@[ext] theorem ext {first second : InsertionSet α} (equal : first.toList = second.toList) :
    first = second := by
  cases first
  cases second
  simp_all

/-- The set without members. -/
def empty : InsertionSet α :=
  ⟨[], List.nodup_nil⟩

instance : EmptyCollection (InsertionSet α) := ⟨empty⟩

instance : Inhabited (InsertionSet α) := ⟨empty⟩

instance : Membership α (InsertionSet α) where
  mem set item := item ∈ set.toList

theorem mem_def {set : InsertionSet α} {item : α} : item ∈ set ↔ item ∈ set.toList := Iff.rfl

@[simp] theorem toList_empty : (∅ : InsertionSet α).toList = [] := rfl

@[simp] theorem not_mem_empty (item : α) : ¬ item ∈ (∅ : InsertionSet α) := by
  simp [mem_def]

/-- The number of members. -/
def size (set : InsertionSet α) : Nat :=
  set.toList.length

/-- The set has no members. -/
def isEmpty (set : InsertionSet α) : Bool :=
  set.toList.isEmpty

theorem isEmpty_iff {set : InsertionSet α} : set.isEmpty = true ↔ set = ∅ := by
  rw [isEmpty, List.isEmpty_iff]
  exact ⟨fun none => ext none, fun none => none ▸ rfl⟩

variable [DecidableEq α]

instance (item : α) (set : InsertionSet α) : Decidable (item ∈ set) :=
  inferInstanceAs (Decidable (item ∈ set.toList))

/-- The set with an item at its end, unless the item is a member already. -/
def insert (set : InsertionSet α) (item : α) : InsertionSet α :=
  if fresh : item ∈ set.toList then set
  else ⟨set.toList ++ [item], by
    rw [List.nodup_append]
    refine ⟨set.nodup, by simp, ?_⟩
    intro first firstIn second secondIn equal
    rw [List.mem_singleton] at secondIn
    exact fresh (secondIn ▸ equal ▸ firstIn)⟩

/-- The set without an item. -/
def erase (set : InsertionSet α) (item : α) : InsertionSet α :=
  ⟨set.toList.filter (· ≠ item), set.nodup.filter _⟩

/-- The set with all items of a list, in turn. -/
def insertAll (set : InsertionSet α) (items : List α) : InsertionSet α :=
  items.foldl insert set

/-- The items of a list, each at its first occurrence. -/
def ofList (items : List α) : InsertionSet α :=
  insertAll ∅ items

theorem toList_insert_of_mem {set : InsertionSet α} {item : α} (known : item ∈ set) :
    set.insert item = set := by
  rw [mem_def] at known
  simp [insert, known]

theorem toList_insert_of_not_mem {set : InsertionSet α} {item : α} (fresh : ¬ item ∈ set) :
    (set.insert item).toList = set.toList ++ [item] := by
  rw [mem_def] at fresh
  simp [insert, fresh]

@[simp] theorem mem_insert {set : InsertionSet α} {item other : α} :
    other ∈ set.insert item ↔ other ∈ set ∨ other = item := by
  by_cases known : item ∈ set
  · rw [toList_insert_of_mem known]
    exact ⟨Or.inl, fun either => either.elim id (fun same => same ▸ known)⟩
  · simp [mem_def, toList_insert_of_not_mem known]

@[simp] theorem toList_erase (set : InsertionSet α) (item : α) :
    (set.erase item).toList = set.toList.filter (· ≠ item) := rfl

@[simp] theorem mem_erase {set : InsertionSet α} {item other : α} :
    other ∈ set.erase item ↔ other ∈ set ∧ other ≠ item := by
  simp [mem_def]

theorem erase_of_not_mem {set : InsertionSet α} {item : α} (absent : ¬ item ∈ set) :
    set.erase item = set :=
  ext (List.filter_eq_self.mpr fun _ listed => decide_eq_true fun same => absent (same ▸ listed))

theorem erase_erase (set : InsertionSet α) (item : α) :
    (set.erase item).erase item = set.erase item :=
  erase_of_not_mem (by simp)

theorem erase_insert (set : InsertionSet α) (item : α) :
    (set.insert item).erase item = set.erase item := by
  by_cases known : item ∈ set
  · rw [toList_insert_of_mem known]
  · exact ext (by simp [toList_insert_of_not_mem known])

theorem insert_insert (set : InsertionSet α) (item : α) :
    (set.insert item).insert item = set.insert item :=
  toList_insert_of_mem (mem_insert.mpr (.inr rfl))

@[simp] theorem mem_insertAll {set : InsertionSet α} {items : List α} {other : α} :
    other ∈ set.insertAll items ↔ other ∈ set ∨ other ∈ items := by
  induction items generalizing set with
  | nil => simp [insertAll]
  | cons item items ih =>
    have step : set.insertAll (item :: items) = (set.insert item).insertAll items := rfl
    rw [step, ih, mem_insert, List.mem_cons, or_assoc]

@[simp] theorem mem_ofList {items : List α} {other : α} : other ∈ ofList items ↔ other ∈ items := by
  simp [ofList]

/-- The same members, in whatever order. -/
def sameMembers (first second : InsertionSet α) : Bool :=
  first.size == second.size && first.toList.all (· ∈ second)

end InsertionSet

end SecondaryIndex
