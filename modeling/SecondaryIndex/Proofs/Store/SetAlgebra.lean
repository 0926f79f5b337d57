/-
**Combining the sets of a store.**

A key without a set is no different from a key with a set that lists nothing.

* `intersect_append` and `union_append` — what two lists of keys give one behind the other comes
  from what each of them gives;
* `IsIntersection` and `IsUnion` — what is listed, in which order, and that nothing is listed twice;
* `set_algebra` — the two combinations are that, whatever the order of the keys and however often a
  key is given, and they turn concatenation of keys into intersection and union.
-/

import Mathlib.Data.Finset.Dedup
import Mathlib.Data.Finset.Lattice.Basic
import SecondaryIndex.Proofs.Collections
import SecondaryIndex.Store.Lookup

namespace SecondaryIndex.Store

variable {store : Store} {keys others : List Bytes} {id : Bytes}

/-! ## Part 1 — what is listed -/

/-- There is a set at the key, and the id is a member of it. -/
def Lists (store : Store) (key id : Bytes) : Prop :=
  ∃ set, store.sets.get? key = some set ∧ id ∈ set

theorem mem_members {key : Bytes} : id ∈ store.members key ↔ store.Lists key id := by
  unfold members Lists
  cases store.sets.get? key with
  | none => simp
  | some set => simp

/-- The members of the sets at the keys, key after key. -/
def seen (store : Store) (keys : List Bytes) : List Bytes :=
  keys.flatMap fun key => (store.members key).toList

/-- **An intersection**: the members that all sets have, in the order of the first one. -/
structure IsIntersection (store : Store) (keys found : List Bytes) : Prop where
  nodup : found.Nodup
  order : ∀ first ∈ keys.head?, found.Sublist (store.members first).toList
  mem_iff : ∀ id, id ∈ found ↔ ∀ key ∈ keys, store.Lists key id
  missing : (∃ key ∈ keys, store.sets.get? key = none) → found = []

/-- **A union**: the members of any of the sets, in the order in which they are seen first. -/
structure IsUnion (store : Store) (keys found : List Bytes) : Prop where
  nodup : found.Nodup
  order : found.Pairwise fun one other =>
    (store.seen keys).idxOf one < (store.seen keys).idxOf other
  mem_iff : ∀ id, id ∈ found ↔ ∃ key ∈ keys, store.Lists key id

theorem isIntersection_intersect (given : keys ≠ []) :
    store.IsIntersection keys (store.intersect keys) := by
  have members : ∀ id, id ∈ store.intersect keys ↔ ∀ key ∈ keys, store.Lists key id := by
    intro id
    rw [mem_intersect given]
    exact forall₂_congr fun key _ => mem_members
  have order : ∀ first ∈ keys.head?,
      (store.intersect keys).Sublist (store.members first).toList := by
    intro first leads
    cases keys with
    | nil => exact absurd rfl given
    | cons key rest =>
      cases leads
      exact List.filter_sublist
  refine ⟨?_, order, members, ?_⟩
  · obtain ⟨first, leads⟩ := Option.isSome_iff_exists.mp (List.isSome_head?.mpr given)
    exact (store.members first).nodup.sublist (order first leads)
  · rintro ⟨key, listed, absent⟩
    refine List.eq_nil_iff_forall_not_mem.mpr fun id common => ?_
    obtain ⟨set, there, -⟩ := (members id).mp common key listed
    cases absent.symm.trans there

theorem isUnion_union : store.IsUnion keys (store.union keys) where
  nodup := InsertionSet.nodup _
  order := InsertionSet.pairwise_idxOf_ofList _
  mem_iff id := by
    rw [mem_union]
    exact exists_congr fun key => and_congr_right fun _ => mem_members

/-! ## Part 2 — keys behind keys -/

/-- Further keys leave of an intersection what is in theirs. -/
theorem intersect_append (given : keys ≠ []) (further : others ≠ []) :
    store.intersect (keys ++ others) =
      (store.intersect keys).filter (· ∈ store.intersect others) := by
  cases keys with
  | nil => exact absurd rfl given
  | cons key rest =>
    rw [List.cons_append, intersect, intersect, List.filter_filter]
    refine List.filter_congr fun id _ => ?_
    rw [Bool.eq_iff_iff]
    simp [mem_intersect further, and_comm]

/-- Further keys add to a union what is new in theirs. -/
theorem union_append (keys others : List Bytes) :
    store.union (keys ++ others) =
      store.union keys ++ (store.union others).filter (· ∉ store.union keys) := by
  unfold union
  rw [List.flatMap_append, InsertionSet.toList_ofList_append]
  refine congrArg _ (List.filter_congr fun id _ => ?_)
  rw [decide_eq_decide, InsertionSet.mem_def]

/-! ## Part 3 — the algebra -/

/-- **Sets are combined as sets.** Neither the order of the keys nor a key that is given again makes
a difference, but to the order of the members. -/
theorem set_algebra (store : Store) (given : keys ≠ []) :
    store.IsIntersection keys (store.intersect keys) ∧
    store.IsUnion keys (store.union keys) ∧
    (∀ others : List Bytes, others.toFinset = keys.toFinset →
      (store.intersect others).toFinset = (store.intersect keys).toFinset ∧
      (store.union others).toFinset = (store.union keys).toFinset) ∧
    ∀ others : List Bytes, others ≠ [] →
      (store.intersect (keys ++ others)).toFinset =
        (store.intersect keys).toFinset ∩ (store.intersect others).toFinset ∧
      (store.union (keys ++ others)).toFinset =
        (store.union keys).toFinset ∪ (store.union others).toFinset := by
  refine ⟨isIntersection_intersect given, isUnion_union, fun others same => ?_,
    fun others further => ⟨?_, ?_⟩⟩
  · have listed : ∀ key, key ∈ others ↔ key ∈ keys := fun key => by
      rw [← List.mem_toFinset, same, List.mem_toFinset]
    have alsoGiven : others ≠ [] := by
      rintro rfl
      exact given (List.eq_nil_iff_forall_not_mem.mpr fun key member => by
        cases (listed key).mpr member)
    constructor <;> ext id
    · simp only [List.mem_toFinset, mem_intersect given, mem_intersect alsoGiven, listed]
    · simp only [List.mem_toFinset, mem_union, listed]
  · ext id
    rw [intersect_append given further]
    simp
  · ext id
    rw [union_append]
    by_cases early : id ∈ store.union keys
    · simp [early]
    · simp [early]

/-- Two sets that share two ids, which came in opposite orders. -/
def lettered : Store where
  fields := ∅
  sets := .ofList
    [(Bytes.ofString "a", .ofList (["1", "2", "3", "4"].map Bytes.ofString)),
      (Bytes.ofString "b", .ofList (["4", "3", "5"].map Bytes.ofString))]
  positions := ∅

/-- The order is that of the first key, and a key without a set is left out of a union only. -/
theorem set_algebra_lettered :
    lettered.IsIntersection (["a", "b"].map Bytes.ofString) (["3", "4"].map Bytes.ofString) ∧
    lettered.IsIntersection (["b", "a"].map Bytes.ofString) (["4", "3"].map Bytes.ofString) ∧
    lettered.IsIntersection (["a", "c"].map Bytes.ofString) [] ∧
    lettered.IsUnion (["a", "c", "b"].map Bytes.ofString)
      (["1", "2", "3", "4", "5"].map Bytes.ofString) ∧
    (lettered.union (["b", "a", "b"].map Bytes.ofString)).toFinset =
      (lettered.union (["a", "b"].map Bytes.ofString)).toFinset ∧
    (lettered.intersect (["a"].map Bytes.ofString ++ ["b", "a"].map Bytes.ofString)).toFinset =
      (lettered.intersect (["a"].map Bytes.ofString)).toFinset ∩
        (lettered.intersect (["b", "a"].map Bytes.ofString)).toFinset := by
  have given : ∀ text texts, (text :: texts).map Bytes.ofString ≠ [] := fun _ _ =>
    List.cons_ne_nil _ _
  have forth := (set_algebra lettered (given "a" ["b"])).1
  have back := (set_algebra lettered (given "b" ["a"])).1
  have lost := (set_algebra lettered (given "a" ["c"])).1
  obtain ⟨-, any, -⟩ := set_algebra lettered (given "a" ["c", "b"])
  obtain ⟨-, -, again, -⟩ := set_algebra lettered (given "a" ["b"])
  obtain ⟨-, -, -, further⟩ := set_algebra lettered (given "a" [])
  refine ⟨?_, ?_, ?_, ?_, (again _ (by decide +kernel)).2,
    (further _ (given "b" ["a"])).1⟩
  · have found : lettered.intersect (["a", "b"].map Bytes.ofString) =
        ["3", "4"].map Bytes.ofString := by decide +kernel
    exact found ▸ forth
  · have found : lettered.intersect (["b", "a"].map Bytes.ofString) =
        ["4", "3"].map Bytes.ofString := by decide +kernel
    exact found ▸ back
  · exact lost.missing ⟨Bytes.ofString "c", by decide +kernel, by decide +kernel⟩ ▸ lost
  · have found : lettered.union (["a", "c", "b"].map Bytes.ofString) =
        ["1", "2", "3", "4", "5"].map Bytes.ofString := by decide +kernel
    exact found ▸ any

end SecondaryIndex.Store
