/-
**Which members a look-up of a circle finds, and in which order.**

* `Store.away` — how far a member is from a point, and `Store.Encircles` — the members near enough;
* `exists_ordered_within` — a bounded look-up takes the first of them in one order: by the keys of
  their distances, and with one distance as they were inserted;
* `Nearest` — a bounded look-up finds the nearest of them;
* `nearest_within` — both for every circle and all bounds.
-/

import SecondaryIndex.Proofs.Geo.Signs
import SecondaryIndex.Proofs.Query.Paging
import SecondaryIndex.Proofs.Sorting

namespace SecondaryIndex

/-! ## Part 1 — the order of a bounded look-up -/

/-- How far a member is from a point. -/
def Store.away (store : Store) (key : Bytes) (center : Point) (member : Bytes) : Float :=
  (store.position? key member).elim 0 center.distance

/-- Measured items by the keys of their distances. -/
def byDistance {α : Type} : Sorting (α × Float) :=
  .byKey compare fun item => totalKey item.2

theorem preorder_byDistance {α : Type} : Std.TransCmp (byDistance (α := α)).compare :=
  (Sorting.Built.byKey inferInstance fun item : α × Float => totalKey item.2).preorder

/-- The nearest items are the first of those that are sorted by their distances. -/
theorem nearest_eq {α : Type} (count : Nat) (measured : List (α × Float)) :
    nearest count measured = (byDistance.apply measured).take count := by
  have order : (fun first second : α × Float => decide (totalKey first.2 ≤ totalKey second.2)) =
      fun first second => decide (byDistance.compare first second ≠ .gt) := by
    funext first second
    exact decide_eq_decide.mpr Int.compare_ne_gt.symm
  rw [nearest, Sorting.apply, order]

/-- The first item is no farther away, and no earlier than the second unless it is nearer. -/
def InOrder (away : Bytes → Float) (all : List Bytes) (one other : Bytes) : Prop :=
  totalKey (away one) ≤ totalKey (away other) ∧
    (totalKey (away one) = totalKey (away other) → [one, other].Sublist all)

section Lookup

variable {store : Store} {key : Bytes} {circle : Circle} {member : Bytes} {distance : Float}

theorem Store.away_of_mem (measured : (member, distance) ∈
    measured circle.center (store.positionsAt key)) :
    store.away key circle.center member = distance := by
  obtain ⟨⟨other, point⟩, listed, same⟩ := List.mem_map.mp measured
  cases same
  have held : store.position? key member = some point := InsertionMap.mem_entries.mp listed
  rw [Store.away, held, Option.elim_some]

/-- **A bounded look-up** takes the first of all members within the circle, in one order of them. -/
theorem exists_ordered_within (store : Store) (key : Bytes) (circle : Circle) :
    ∃ ordered : List Bytes, ordered.Perm (store.within key circle none) ∧
      (∀ count, store.within key circle (some count) = ordered.take count) ∧
      ordered.Pairwise (InOrder (store.away key circle.center) (store.within key circle none)) := by
  generalize close : withinReach circle.radius.inMeters
    (Store.measured circle.center (store.positionsAt key)) = near
  have all : store.within key circle none = near.map Prod.fst := by
    rw [← close]
    rfl
  have distances : ∀ item ∈ byDistance.apply near,
      store.away key circle.center item.1 = item.2 := by
    intro item listed
    have listed := (byDistance.perm_apply near).mem_iff.mp listed
    rw [← close] at listed
    exact Store.away_of_mem (List.mem_filter.mp listed).1
  refine ⟨(byDistance.apply near).map Prod.fst, ?_, fun count => ?_, ?_⟩
  · rw [all]
    exact (byDistance.perm_apply near).map _
  · rw [Store.within, reached, close, Option.elim_some, nearest_eq, List.map_take]
  · refine List.pairwise_map.mpr (List.pairwise_iff_forall_sublist.mpr fun {one other} pair => ?_)
    have first := distances one (pair.subset List.mem_cons_self)
    have second := distances other (pair.subset (List.mem_cons_of_mem _ List.mem_cons_self))
    have below := List.pairwise_iff_forall_sublist.mp
      (Sorting.pairwise_apply preorder_byDistance near) pair
    rw [InOrder, first, second, all]
    refine ⟨Int.compare_ne_gt.mp below, fun same => ?_⟩
    exact (Sorting.sublist_of_tied preorder_byDistance pair (Int.compare_eq_eq.mpr same)).map _

end Lookup

/-! ## Part 2 — what is found -/

/-- **The members near enough**, in the order of their insertion and each once; what is undefined is
never near enough. -/
structure Store.Encircles (store : Store) (key : Bytes) (circle : Circle) (found : List Bytes) :
    Prop where
  sublist : found.Sublist (store.positionsAt key).keys
  nodup : found.Nodup
  mem_iff : ∀ member, member ∈ found ↔ ∃ point, store.position? key member = some point ∧
    circle.center.distance point ≤ circle.radius.inMeters
  defined : ∀ member ∈ found, (store.away key circle.center member).isNaN = false

/-- **So many of all items, the nearest first.** Of equally near ones the earlier comes first, but
minus zero before zero. -/
structure Nearest (away : Bytes → Float) (all : List Bytes) (count : Nat) (found : List Bytes) :
    Prop where
  length_eq : found.length = min count all.length
  subset : found ⊆ all
  nodup : found.Nodup
  ordered : found.Pairwise fun one other => away one ≤ away other
  ties : found.Pairwise fun one other => (away one == away other) = true →
    [one, other].Sublist all ∨ away one = -0.0 ∧ away other = 0.0
  nearest : ∀ one ∈ found, ∀ other ∈ all, other ∉ found → ¬ away other < away one
  complete : all.length ≤ count → found.Perm all

section Found

variable {store : Store} {key : Bytes} {circle : Circle} {member : Bytes}

theorem encircles_within (store : Store) (key : Bytes) (circle : Circle) :
    store.Encircles key circle (store.within key circle none) where
  sublist := by
    have members : ((Store.measured circle.center (store.positionsAt key)).map Prod.fst) =
        (store.positionsAt key).keys := List.map_map
    rw [← members]
    exact List.filter_sublist.map Prod.fst
  nodup := store.nodup_within key circle none
  mem_iff _ := Store.mem_within
  defined member found := by
    obtain ⟨point, held, close⟩ := Store.mem_within.mp found
    rw [Store.away, held, Option.elim_some]
    exact isNaN_of_le close

/-- **The first of an order of all** are the nearest. -/
theorem nearest_take {away : Bytes → Float} {all ordered : List Bytes} (perm : ordered.Perm all)
    (nodup : all.Nodup) (defined : ∀ member ∈ all, (away member).isNaN = false)
    (inOrder : ordered.Pairwise (InOrder away all)) (count : Nat) :
    Nearest away all count (ordered.take count) where
  length_eq := by rw [List.length_take, perm.length_eq]
  subset := List.Subset.trans (List.take_subset ..) perm.subset
  nodup := (perm.nodup_iff.mpr nodup).sublist (List.take_sublist ..)
  ordered := by
    refine (inOrder.sublist (List.take_sublist ..)).imp_of_mem fun first second below => ?_
    exact le_of_totalKey_le (defined _ (perm.subset (List.mem_of_mem_take first)))
      (defined _ (perm.subset (List.mem_of_mem_take second))) below.1
  ties := by
    refine (inOrder.sublist (List.take_sublist ..)).imp fun below equal => ?_
    rcases Int.lt_or_eq_of_le below.1 with nearer | same
    · exact .inr (zeros_of_totalKey_lt nearer equal)
    · exact .inl (below.2 same)
  nearest one taken other listed left := by
    -- what is not taken stands behind
    have behind : other ∈ ordered.drop count := by
      have split := perm.mem_iff.mpr listed
      rw [← List.take_append_drop count ordered, List.mem_append] at split
      exact split.resolve_left left
    rw [← List.take_append_drop count ordered, List.pairwise_append] at inOrder
    exact not_lt_of_totalKey_le (inOrder.2.2 one taken other behind).1
  complete enough := by
    rw [List.take_of_length_le (perm.length_eq ▸ enough)]
    exact perm

/-- **A look-up of a circle** finds the members near enough, and if it is bounded the nearest of
them, the more the greater the bound. If the arcsine does as it should, then no distance is minus
zero, and equally near members are found as they were inserted. -/
theorem nearest_within (store : Store) (key : Bytes) (circle : Circle) :
    store.Encircles key circle (store.within key circle none) ∧
      (∀ count, Nearest (store.away key circle.center) (store.within key circle none) count
        (store.within key circle (some count))) ∧
      (∀ count more, count ≤ more →
        store.within key circle (some count) <+: store.within key circle (some more)) ∧
      (ArcsineKeepsPlus → ∀ count, (store.within key circle (some count)).Pairwise fun one other =>
        (store.away key circle.center one == store.away key circle.center other) = true →
          [one, other].Sublist (store.within key circle none)) := by
  have encircles := encircles_within store key circle
  obtain ⟨ordered, perm, bound, inOrder⟩ := exists_ordered_within store key circle
  have nearest (count : Nat) : Nearest (store.away key circle.center)
      (store.within key circle none) count (store.within key circle (some count)) := by
    rw [bound]
    exact nearest_take perm encircles.nodup encircles.defined inOrder count
  refine ⟨encircles, nearest, fun count more below => ?_, fun arcsine count => ?_⟩
  · rw [bound, bound]
    exact List.take_prefix_take_left below
  · refine (nearest count).ties.imp_of_mem fun {one other} found _ tie equal => ?_
    refine (tie equal).resolve_right fun ⟨minus, _⟩ => ?_
    obtain ⟨point, held, _⟩ := Store.mem_within.mp ((nearest count).subset found)
    have plus := isPlus_distance arcsine circle.center point
    rw [Store.away, held, Option.elim_some] at minus
    rw [minus] at plus
    exact absurd plus (by unfold IsPlus; decide +kernel)

end Found

end SecondaryIndex
