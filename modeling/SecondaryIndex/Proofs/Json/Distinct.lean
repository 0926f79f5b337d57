/-
**Values in which no object repeats a key.**

* `Distinct.keys`, `Distinct.item` and `Distinct.member` — what such a value is made of;
* `distinct_merged` — repeated keys are gone once they are merged, so what is read from a text is
  such a value (`distinct_of_read`);
* `distinct_place` — a leaf that is put in place repeats no key.
-/

import SecondaryIndex.Json.Path
import SecondaryIndex.Json.Reader
import SecondaryIndex.Proofs.Collections

namespace SecondaryIndex.Json

/-! ## Part 1 — items and members -/

section Parts

variable {items : List Json} {members : List (String × Json)} {inner value : Json}
  {entry : String × Json}

theorem distinctItems_iff : DistinctItems items ↔ ∀ item ∈ items, item.Distinct := by
  induction items with
  | nil => simp [DistinctItems]
  | cons item rest ih => rw [DistinctItems, ih, List.forall_mem_cons]

theorem distinctMembers_iff : DistinctMembers members ↔ ∀ entry ∈ members, entry.2.Distinct := by
  induction members with
  | nil => simp [DistinctMembers]
  | cons entry rest ih => rw [DistinctMembers, ih, List.forall_mem_cons]

theorem distinct_array : (array items).Distinct ↔ ∀ item ∈ items, item.Distinct := by
  rw [Distinct, distinctItems_iff]

theorem distinct_object : (object members).Distinct ↔
    (members.map Prod.fst).Nodup ∧ ∀ entry ∈ members, entry.2.Distinct := by
  rw [Distinct, distinctMembers_iff]

theorem Distinct.keys (distinct : (object members).Distinct) : (members.map Prod.fst).Nodup :=
  (distinct_object.mp distinct).1

theorem Distinct.item (distinct : (array items).Distinct) (held : inner ∈ items) : inner.Distinct :=
  distinct_array.mp distinct inner held

theorem Distinct.member (distinct : (object members).Distinct) (held : entry ∈ members) :
    entry.2.Distinct :=
  (distinct_object.mp distinct).2 entry held

theorem Distinct.itemsOf (distinct : value.Distinct) : ∀ item ∈ value.itemsOf, item.Distinct := by
  cases value with
  | array items => exact distinct_array.mp distinct
  | _ => exact fun _ held => (List.not_mem_nil held).elim

theorem Distinct.membersOf (distinct : value.Distinct) :
    (value.membersOf.map Prod.fst).Nodup ∧ ∀ entry ∈ value.membersOf, entry.2.Distinct := by
  cases value with
  | object members => exact distinct_object.mp distinct
  | _ => exact ⟨.nil, fun _ held => (List.not_mem_nil held).elim⟩

end Parts

/-! ## Part 2 — where such values come from -/

section Sources

variable {bound : Nat} {leaf target placed value : Json} {steps : List Step}
  {members : List (String × Json)} {key : String} {bytes : Bytes}

/-- What an entry list holds after a change was there, or is new. -/
theorem mem_insertEntry {entry : String × Json}
    (held : entry ∈ InsertionMap.insertEntry key value members) :
    entry = (key, value) ∨ entry ∈ members := by
  induction members with
  | nil => exact .inl (List.mem_singleton.mp held)
  | cons head rest ih =>
    obtain ⟨first, other⟩ := head
    rw [InsertionMap.insertEntry] at held
    split at held
    · exact (List.mem_cons.mp held).imp_right (List.mem_cons_of_mem _)
    · rcases List.mem_cons.mp held with rfl | later
      · exact .inr List.mem_cons_self
      · exact (ih later).imp_right (List.mem_cons_of_mem _)

theorem distinct_insertEntry (distinct : (object members).Distinct) (held : value.Distinct) :
    (object (InsertionMap.insertEntry key value members)).Distinct := by
  refine distinct_object.mpr ⟨InsertionMap.nodup_insertEntry key value distinct.keys, ?_⟩
  intro entry listed
  rcases mem_insertEntry listed with rfl | old
  · exact held
  · exact distinct.member old

theorem distinct_mergeMembers (each : ∀ entry ∈ members, entry.2.Distinct) :
    (object (mergeMembers members)).Distinct := by
  have grows : ∀ merged : List (String × Json), (object merged).Distinct →
      (object (members.foldl (fun merged entry =>
        InsertionMap.insertEntry entry.1 entry.2 merged) merged)).Distinct := by
    induction members with
    | nil => exact fun _ distinct => distinct
    | cons entry rest ih =>
      rw [List.forall_mem_cons] at each
      exact fun merged distinct => ih each.2 _ (distinct_insertEntry distinct each.1)
  exact grows [] (distinct_object.mpr ⟨.nil, fun _ held => (List.not_mem_nil held).elim⟩)

/-- **Merged values repeat no key.** -/
theorem distinct_merged (value : Json) : value.merged.Distinct := by
  refine @Json.rec (fun value => value.merged.Distinct)
    (fun items => ∀ item ∈ mergedItems items, item.Distinct)
    (fun members => ∀ entry ∈ mergedMembers members, entry.2.Distinct)
    (fun entry => entry.2.merged.Distinct) trivial (fun _ => trivial) (fun _ => trivial)
    (fun _ => trivial) (fun items each => ?_) (fun members each => ?_) ?_ ?_ ?_ ?_ ?_ value
  · exact distinct_array.mpr each
  · exact distinct_mergeMembers each
  · exact fun _ held => (List.not_mem_nil held).elim
  · exact fun _ _ first rest => List.forall_mem_cons.mpr ⟨first, rest⟩
  · exact fun _ held => (List.not_mem_nil held).elim
  · exact fun _ _ first rest => List.forall_mem_cons.mpr ⟨first, rest⟩
  · exact fun _ _ held => held

theorem distinct_of_read (parsed : Json.read bytes = .ok value) : value.Distinct := by
  rw [Json.read] at parsed
  cases raw : readRaw bytes with
  | error error =>
    rw [raw] at parsed
    cases parsed
  | ok content =>
    rw [raw] at parsed
    cases parsed
    exact distinct_merged content

theorem distinct_getD {found : Option Json} (each : ∀ value, found = some value → value.Distinct) :
    (found.getD .null).Distinct := by
  cases found with
  | none => trivial
  | some value => exact each value rfl

/-- **A leaf that is put in place repeats no key.** -/
theorem distinct_place (distinct : target.Distinct) (held : leaf.Distinct)
    (done : place bound leaf steps target = some placed) : placed.Distinct := by
  induction steps generalizing target placed with
  | nil =>
    cases done
    exact held
  | cons step steps ih =>
    cases step with
    | key name =>
      rw [place, Option.map_eq_some_iff] at done
      obtain ⟨slot, filled, rfl⟩ := done
      obtain ⟨nodup, each⟩ := distinct.membersOf
      refine distinct_insertEntry (distinct_object.mpr ⟨nodup, each⟩) (ih ?_ filled)
      exact distinct_getD fun value found => each _ (Entries.mem_of_lookup found)
    | index position =>
      rw [place] at done
      split at done
      · cases done
      · obtain ⟨slot, filled, rfl⟩ := Option.map_eq_some_iff.mp done
        -- what is new in a list made longer is null
        have padding : ∀ item ∈ padded target.itemsOf position, item.Distinct := by
          intro item listed
          rcases List.mem_append.mp listed with old | new
          · exact distinct.itemsOf item old
          · rw [List.eq_of_mem_replicate new]
            trivial
        refine distinct_array.mpr fun item listed => ?_
        rcases List.mem_or_eq_of_mem_set listed with old | rfl
        · exact padding item old
        · exact ih (distinct_getD fun value found => padding _ (List.mem_of_getElem? found)) filled

end Sources

end SecondaryIndex.Json
