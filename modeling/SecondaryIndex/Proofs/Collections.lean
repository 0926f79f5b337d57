/-
**Maps and sets from lists.**

* `get?_insertAll` and `get?_ofList` — where no key is listed twice, a map that is made from a list
  holds what is listed;
* `ofList_eq` — so it is the map that holds it, in whatever order the entries were listed;
* `perm_entries_ofList`, `size_ofList` — and it lists those entries, as many as there are;
* `get?_ofList_eq_lookup_reverse` — else the last entry of a key is kept, and `size_ofList_eq_length_iff`
  — then there are fewer;
* `isEmpty_ofList` — a map that is made from something is not empty;
* `InsertionSet.toList_ofList_eq_eraseDups` — a set lists what it was made from, each item where it
  comes first (`InsertionSet.pairwise_idxOf_ofList`);
* `InsertionSet.toList_ofList_append` — more items join it at its end;
* `InsertionSet.perm_ofList` — sets that are made from the same items list the same members, and
  `InsertionSet.size_ofList_le` — more items make no smaller set.
-/

import Mathlib.Data.List.Dedup
import Mathlib.Data.List.Induction
import Mathlib.Data.List.Nodup
import Mathlib.Data.List.Perm.Subperm
import SecondaryIndex.Collections.ByteMap
import SecondaryIndex.Collections.InsertionSet

namespace SecondaryIndex

namespace Entries

variable {κ α : Type} [BEq κ] [LawfulBEq κ] {entries : List (κ × α)} {key : κ}
  {value : α}

theorem lookup_eq_none_of_notMem (absent : key ∉ entries.map Prod.fst) :
    entries.lookup key = none := by
  rw [List.lookup_eq_none_iff]
  intro entry listed
  have different : key ≠ entry.1 := fun same => absent (List.mem_map.mpr ⟨entry, listed, same.symm⟩)
  simpa using different

theorem mem_of_lookup [DecidableEq κ] (found : entries.lookup key = some value) :
    (key, value) ∈ entries := by
  induction entries with
  | nil => cases found
  | cons entry entries ih =>
    rw [lookup_cons_eq] at found
    split at found
    · rename_i same
      cases found
      exact same ▸ List.mem_cons_self
    · exact List.mem_cons_of_mem _ (ih found)

/-- Where no key is listed twice, the look-up of a key finds the entry that is listed. -/
theorem lookup_eq_some_iff [DecidableEq κ] (nodup : (entries.map Prod.fst).Nodup) :
    entries.lookup key = some value ↔ (key, value) ∈ entries := by
  induction entries with
  | nil => simp
  | cons entry entries ih =>
    obtain ⟨first, held⟩ := entry
    rw [List.map_cons, List.nodup_cons] at nodup
    rw [lookup_cons_eq, List.mem_cons, ← ih nodup.2]
    by_cases here : key = first
    · subst here
      simp [lookup_eq_none_of_notMem nodup.1, eq_comm]
    · simp [here]

end Entries

namespace ByteMap

open Entries

variable {α : Type} {entries : List (Bytes × α)} {map : ByteMap α} {key : Bytes}

theorem nodup_keys (map : ByteMap α) : (map.entries.map Prod.fst).Nodup := by
  rw [List.Nodup, List.pairwise_map]
  refine map.sorted.imp fun before same => ?_
  exact List.lt_irrefl _ (same ▸ before)

/-- Listed entries replace what a map held before. -/
theorem get?_insertAll (nodup : (entries.map Prod.fst).Nodup) (map : ByteMap α) (key : Bytes) :
    (entries.foldl (fun map entry => map.insert entry.1 entry.2) map).get? key =
      (entries.lookup key).or (map.get? key) := by
  induction entries generalizing map with
  | nil => rfl
  | cons entry entries ih =>
    obtain ⟨first, held⟩ := entry
    rw [List.map_cons, List.nodup_cons] at nodup
    rw [List.foldl_cons, ih nodup.2, get?_insert, lookup_cons_eq]
    by_cases here : key = first
    · rw [if_pos here, if_pos here, here, lookup_eq_none_of_notMem nodup.1]
      rfl
    · rw [if_neg here, if_neg here]

theorem get?_ofList (nodup : (entries.map Prod.fst).Nodup) (key : Bytes) :
    (ofList entries).get? key = entries.lookup key := by
  rw [ofList, get?_insertAll nodup, get?_empty, Option.or_none]

/-- A map is made from any list of what it holds. -/
theorem ofList_eq (nodup : (entries.map Prod.fst).Nodup)
    (listed : ∀ key value, (key, value) ∈ entries ↔ map.get? key = some value) :
    ofList entries = map := by
  refine ext_get? fun key => Option.ext fun value => ?_
  rw [get?_ofList nodup, lookup_eq_some_iff nodup, listed]

theorem mem_entries_ofList (nodup : (entries.map Prod.fst).Nodup) {value : α} :
    (key, value) ∈ (ofList entries).entries ↔ (key, value) ∈ entries := by
  rw [mem_entries, get?_ofList nodup, lookup_eq_some_iff nodup]

/-- A map lists what it was made from, in its own order. -/
theorem perm_entries_ofList (nodup : (entries.map Prod.fst).Nodup) :
    (ofList entries).entries.Perm entries := by
  have nodupEntries : entries.Nodup := .of_map _ nodup
  have nodupHeld : (ofList entries).entries.Nodup := .of_map _ (ofList entries).nodup_keys
  exact (List.perm_ext_iff_of_nodup nodupHeld nodupEntries).mpr fun entry =>
    mem_entries_ofList nodup

theorem size_ofList (nodup : (entries.map Prod.fst).Nodup) :
    (ofList entries).size = entries.length :=
  (perm_entries_ofList nodup).length_eq

/-- **The last entry of a key is kept.** -/
theorem get?_ofList_eq_lookup_reverse (entries : List (Bytes × α)) (key : Bytes) :
    (ofList entries).get? key = entries.reverse.lookup key := by
  induction entries using List.reverseRecOn with
  | nil => rfl
  | append_singleton entries entry ih =>
    rw [ofList, List.foldl_append, List.foldl_cons, List.foldl_nil, get?_insert,
      List.reverse_append, List.reverse_singleton, List.singleton_append, lookup_cons_eq, ← ih]
    rfl

theorem mem_keys_ofList :
    key ∈ (ofList entries).entries.map Prod.fst ↔ key ∈ entries.map Prod.fst := by
  constructor
  · intro held
    obtain ⟨⟨other, value⟩, listed, rfl⟩ := List.mem_map.mp held
    by_contra absent
    have found := mem_entries.mp listed
    rw [get?_ofList_eq_lookup_reverse, lookup_eq_none_of_notMem] at found
    · cases found
    · rwa [List.map_reverse, List.mem_reverse]
  · intro listed
    obtain ⟨entry, named, rfl⟩ := List.mem_map.mp listed
    cases found : (ofList entries).get? entry.1 with
    | some value => exact List.mem_map.mpr ⟨_, mem_entries.mpr found, rfl⟩
    | none =>
      rw [get?_ofList_eq_lookup_reverse, List.lookup_eq_none_iff] at found
      simpa using found entry (List.mem_reverse.mpr named)

/-- A map has as many entries as there are keys to make it from. -/
theorem size_ofList_eq_length_dedup (entries : List (Bytes × α)) :
    (ofList entries).size = (entries.map Prod.fst).dedup.length := by
  have perm : ((ofList entries).entries.map Prod.fst).Perm (entries.map Prod.fst).dedup :=
    (List.perm_ext_iff_of_nodup (nodup_keys _) (List.nodup_dedup _)).mpr fun key => by
      rw [mem_keys_ofList, List.mem_dedup]
  rw [size, ← List.length_map (f := Prod.fst), perm.length_eq]

theorem size_ofList_le (entries : List (Bytes × α)) : (ofList entries).size ≤ entries.length := by
  have keys : entries.length = (entries.map Prod.fst).length := (List.length_map _).symm
  rw [size_ofList_eq_length_dedup, keys]
  exact (List.dedup_sublist _).length_le

/-- **No entry is lost exactly if no key is listed twice.** -/
theorem size_ofList_eq_length_iff :
    (ofList entries).size = entries.length ↔ (entries.map Prod.fst).Nodup := by
  refine ⟨fun all => ?_, size_ofList⟩
  have keys : entries.length = (entries.map Prod.fst).length := (List.length_map _).symm
  rw [size_ofList_eq_length_dedup, keys] at all
  exact List.dedup_eq_self.mp ((List.dedup_sublist _).eq_of_length all)

/-- A map that is made from something holds something, also where keys are listed twice. -/
theorem isEmpty_ofList (entries : List (Bytes × α)) :
    (ofList entries).isEmpty = entries.isEmpty := by
  induction entries using List.reverseRecOn with
  | nil => rfl
  | append_singleton entries entry _ =>
    have last : ofList (entries ++ [entry]) = (ofList entries).insert entry.1 entry.2 := by
      rw [ofList, List.foldl_append]
      rfl
    have held : (ofList (entries ++ [entry])).get? entry.1 = some entry.2 := by
      rw [last, get?_insert, if_pos rfl]
    have some : (ofList (entries ++ [entry])).isEmpty = false :=
      List.isEmpty_eq_false_iff_exists_mem.mpr ⟨_, mem_entries.mpr held⟩
    rw [some]
    simp

end ByteMap

namespace InsertionSet

variable {α : Type} [DecidableEq α] {items others : List α}

/-- An item joins a set at its end, unless it is there already. -/
theorem toList_insert_eq (set : InsertionSet α) (item : α) :
    (set.insert item).toList = set.toList ∨ (set.insert item).toList = set.toList ++ [item] := by
  by_cases known : item ∈ set
  · exact .inl (congrArg _ (toList_insert_of_mem known))
  · exact .inr (toList_insert_of_not_mem known)

theorem isEmpty_insert (set : InsertionSet α) (item : α) : (set.insert item).isEmpty = false := by
  rw [Bool.eq_false_iff]
  intro none
  have member : item ∈ set.insert item := mem_insert.mpr (.inr rfl)
  rw [isEmpty_iff.mp none] at member
  exact not_mem_empty item member

theorem ofList_concat (items : List α) (item : α) :
    ofList (items ++ [item]) = (ofList items).insert item := by
  rw [ofList, insertAll, List.foldl_append]
  rfl

/-- A list without duplicates is the list of the set that is made from it. -/
theorem toList_ofList (nodup : items.Nodup) : (ofList items).toList = items := by
  induction items using List.reverseRecOn with
  | nil => rfl
  | append_singleton items item ih =>
    obtain ⟨first, -, apart⟩ := List.nodup_append.mp nodup
    have fresh : ¬ item ∈ ofList items := fun known =>
      apart item (mem_ofList.mp known) item List.mem_cons_self rfl
    rw [ofList_concat, toList_insert_of_not_mem fresh, ih first]

/-- **A set lists what it was made from, each item where it comes first.** -/
theorem toList_ofList_eq_eraseDups [BEq α] [LawfulBEq α] (items : List α) :
    (ofList items).toList = items.eraseDups := by
  induction items using List.reverseRecOn with
  | nil => rfl
  | append_singleton items item ih =>
    rw [ofList_concat, List.eraseDups_append]
    by_cases known : item ∈ items
    · rw [toList_insert_of_mem (mem_ofList.mpr known), ih]
      simp [List.removeAll, known]
    · rw [toList_insert_of_not_mem fun member => known (mem_ofList.mp member), ih]
      simp [List.removeAll, known, List.eraseDups_cons]

/-- A set lists its members in the order in which they come first. -/
theorem pairwise_idxOf_ofList [BEq α] [LawfulBEq α] (items : List α) :
    (ofList items).toList.Pairwise fun one other => items.idxOf one < items.idxOf other := by
  induction items using List.reverseRecOn with
  | nil => exact List.Pairwise.nil
  | append_singleton items item ih =>
    have before : ∀ one ∈ (ofList items).toList, one ∈ items := fun one listed =>
      mem_ofList.mp listed
    have kept : (ofList items).toList.Pairwise fun one other =>
        (items ++ [item]).idxOf one < (items ++ [item]).idxOf other := by
      refine ih.imp_of_mem fun one other less => ?_
      rwa [List.idxOf_append_of_mem (before _ one), List.idxOf_append_of_mem (before _ other)]
    rw [ofList_concat]
    by_cases known : item ∈ items
    · rwa [toList_insert_of_mem (mem_ofList.mpr known)]
    · rw [toList_insert_of_not_mem fun member => known (mem_ofList.mp member), List.pairwise_append]
      refine ⟨kept, List.pairwise_singleton _ _, fun one listed other last => ?_⟩
      rw [List.mem_singleton.mp last, List.idxOf_append_of_mem (before one listed),
        List.idxOf_append_of_notMem known]
      exact Nat.lt_add_right _ (List.idxOf_lt_length_of_mem (before one listed))

/-- More items join a set at its end, without those that are there already. -/
theorem toList_ofList_append (items others : List α) :
    (ofList (items ++ others)).toList =
      (ofList items).toList ++ (ofList others).toList.filter (· ∉ ofList items) := by
  induction others using List.reverseRecOn with
  | nil => simp [ofList, insertAll]
  | append_singleton others item ih =>
    rw [← List.append_assoc, ofList_concat, ofList_concat]
    by_cases known : item ∈ others
    · rw [toList_insert_of_mem (mem_ofList.mpr (List.mem_append_right items known)),
        toList_insert_of_mem (mem_ofList.mpr known), ih]
    · have fresh : ¬ item ∈ ofList others := fun member => known (mem_ofList.mp member)
      rw [toList_insert_of_not_mem fresh, List.filter_append, ← List.append_assoc, ← ih]
      by_cases early : item ∈ items
      · rw [toList_insert_of_mem (mem_ofList.mpr (List.mem_append_left others early))]
        simp [early]
      · rw [toList_insert_of_not_mem (by simp [early, known])]
        simp [early]

/-- The same items make sets that list the same members, in some order. -/
theorem perm_ofList (same : ∀ item, item ∈ items ↔ item ∈ others) :
    (ofList items).toList.Perm (ofList others).toList := by
  refine (List.perm_ext_iff_of_nodup (nodup _) (nodup _)).mpr fun item => ?_
  rw [← mem_def, ← mem_def, mem_ofList, mem_ofList, same]

/-- The same items make sets of the same size. -/
theorem size_ofList_congr (same : ∀ item, item ∈ items ↔ item ∈ others) :
    (ofList items).size = (ofList others).size :=
  (perm_ofList same).length_eq

theorem toList_ofList_subset (among : items ⊆ others) :
    (ofList items).toList ⊆ (ofList others).toList := by
  intro item listed
  rw [← mem_def, mem_ofList] at listed ⊢
  exact among listed

/-- More items make no smaller set. -/
theorem size_ofList_le (among : items ⊆ others) : (ofList items).size ≤ (ofList others).size :=
  ((nodup _).subperm (toList_ofList_subset among)).length_le

end InsertionSet

end SecondaryIndex
