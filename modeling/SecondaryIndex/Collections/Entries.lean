/-
**Looking a key up in a list of entries.**

* `lookup_cons_eq` is the look-up as a case distinction on the first entry;
* `lookup_filter_ne` says that dropping the entries of one key changes that key only.
-/

namespace SecondaryIndex.Entries

variable {κ α : Type} [BEq κ] [LawfulBEq κ] [DecidableEq κ]

/-- The first entry answers for its key, the rest for the others. -/
theorem lookup_cons_eq (first other : κ) (held : α) (rest : List (κ × α)) :
    ((first, held) :: rest).lookup other =
      if other = first then some held else rest.lookup other := by
  by_cases same : other = first
  · simp [same]
  · have differs : (other == first) = false := by simpa using same
    simp [List.lookup_cons, differs, same]

/-- Without the entries of a key, that key finds nothing and the others what they found before. -/
theorem lookup_filter_ne (key other : κ) (entries : List (κ × α)) :
    (entries.filter (·.1 ≠ key)).lookup other =
      if other = key then none else entries.lookup other := by
  induction entries with
  | nil => simp
  | cons head rest ih =>
    obtain ⟨first, held⟩ := head
    by_cases removed : first = key
    · have dropped : ((first, held) :: rest).filter (·.1 ≠ key) = rest.filter (·.1 ≠ key) := by
        simp [removed]
      rw [dropped, ih, lookup_cons_eq, removed]
      split <;> rfl
    · have kept : ((first, held) :: rest).filter (·.1 ≠ key) =
          (first, held) :: rest.filter (·.1 ≠ key) := by
        simp [removed]
      rw [kept, lookup_cons_eq, lookup_cons_eq, ih]
      by_cases same : other = first
      · simp [same, removed]
      · simp [same]

end SecondaryIndex.Entries
