/-
**Sortings that are built from total preorders.**

* `Sorting.Built` — comparisons and keys, reversed and one after the other, to any depth, and
  `Built.preorder` — each compares as a total preorder;
* `Sorting.Sorts` — a list is put in order, and of tied items each list stays as it was;
* `eq_of_ordered` — there is one such list: two lists in order are equal if they have the same items
  of each tie, in the same order;
* `apply_andThen` — so ties are broken as well by sorting twice, by the second order first;
* `Catalogue.findIn_sorted` — a query sorts what it would have found;
* `stable_sortings` — the laws of sortings together.
-/

import Mathlib.Data.List.Permutation
import SecondaryIndex.Query.Catalogue

namespace SecondaryIndex

namespace Sorting

variable {α : Type}

/-! ## Part 1 — total preorders -/

/-- The items are tied. -/
def Tied (sorting : Sorting α) (first second : α) : Prop :=
  sorting.compare first second = .eq

instance (sorting : Sorting α) (first second : α) : Decidable (sorting.Tied first second) :=
  inferInstanceAs (Decidable (_ = _))

/-- **The sorting is built from total preorders.** -/
inductive Built : Sorting α → Prop
  | comparing {compare : α → α → Ordering} (preorder : Std.TransCmp compare) : Built ⟨compare⟩
  | byKey {κ : Type} {order : κ → κ → Ordering} (preorder : Std.TransCmp order) (key : α → κ) :
    Built (byKey order key)
  | reverse {sorting : Sorting α} (built : Built sorting) : Built sorting.reverse
  | andThen {first second : Sorting α} (built : Built first) (next : Built second) :
    Built (first.andThen second)

/-- **What a sorting does.** It compares as a total preorder, and it puts the items of a list in
order, tied ones in the order they had. -/
structure Sorts (sorting : Sorting α) : Prop where
  swap : ∀ first second, sorting.compare second first = (sorting.compare first second).swap
  trans : ∀ first second third, sorting.compare first second ≠ .gt →
    sorting.compare second third ≠ .gt → sorting.compare first third ≠ .gt
  ties : Equivalence sorting.Tied
  perm : ∀ items, (sorting.apply items).Perm items
  ordered : ∀ items,
    (sorting.apply items).Pairwise fun first second => sorting.compare first second ≠ .gt
  stable : ∀ items item,
    (sorting.apply items).filter (sorting.Tied item) = items.filter (sorting.Tied item)

section Preorders

variable {sorting first second : Sorting α} {items : List α} {item : α}

/-- **A built sorting compares as a total preorder.** -/
theorem Built.preorder (built : sorting.Built) : Std.TransCmp sorting.compare := by
  induction built with
  | comparing preorder => exact preorder
  | byKey preorder key =>
    exact { eq_swap := preorder.eq_swap, isLE_trans := preorder.isLE_trans }
  | @reverse sorting _ ih => exact @Std.TransCmp.opposite _ sorting.compare ih
  | @andThen first second _ _ one other =>
    exact inferInstanceAs (Std.TransCmp (compareLex first.compare second.compare))

/-- The first item need not stand behind the second. -/
def inOrder (sorting : Sorting α) (first second : α) : Bool :=
  sorting.compare first second ≠ .gt

theorem inOrder_iff {one other : α} :
    sorting.inOrder one other = true ↔ sorting.compare one other ≠ .gt :=
  decide_eq_true_iff

theorem inOrder_trans (preorder : Std.TransCmp sorting.compare) (one other third : α)
    (below : sorting.inOrder one other = true) (above : sorting.inOrder other third = true) :
    sorting.inOrder one third = true := by
  have first := Ordering.ne_gt_iff_isLE.mp (inOrder_iff.mp below)
  have second := Ordering.ne_gt_iff_isLE.mp (inOrder_iff.mp above)
  exact inOrder_iff.mpr (Ordering.ne_gt_iff_isLE.mpr (preorder.isLE_trans first second))

theorem inOrder_total (preorder : Std.TransCmp sorting.compare) (one other : α) :
    (sorting.inOrder one other || sorting.inOrder other one) = true := by
  rw [Bool.or_eq_true, inOrder_iff, inOrder_iff, preorder.eq_swap (a := other)]
  cases sorting.compare one other <;> simp

/-- Items of which none is behind the other are tied. -/
theorem tied_of_both (preorder : Std.TransCmp sorting.compare) {one other : α}
    (below : sorting.compare one other ≠ .gt) (above : sorting.compare other one ≠ .gt) :
    sorting.Tied one other := by
  rw [preorder.eq_swap] at above
  rw [Tied]
  revert below above
  cases sorting.compare one other <;> simp

theorem equivalence_tied (preorder : Std.TransCmp sorting.compare) :
    Equivalence sorting.Tied where
  refl _ := Std.ReflCmp.compare_self
  symm := Std.OrientedCmp.eq_comm.mp
  trans := Std.TransCmp.eq_trans

/-! ## Part 2 — lists in order -/

/-- The items that are tied with one, in the order that they have in a list. -/
def tie (sorting : Sorting α) (item : α) (items : List α) : List α :=
  items.filter (sorting.Tied item)

theorem perm_apply (sorting : Sorting α) (items : List α) : (sorting.apply items).Perm items :=
  List.mergeSort_perm ..

theorem pairwise_apply (preorder : Std.TransCmp sorting.compare) (items : List α) :
    (sorting.apply items).Pairwise fun first second => sorting.compare first second ≠ .gt :=
  (List.pairwise_mergeSort (inOrder_trans preorder) (inOrder_total preorder) items).imp
    inOrder_iff.mp

theorem tie_cons_of_tied {other : α} (tied : sorting.Tied item other) (items : List α) :
    sorting.tie item (other :: items) = other :: sorting.tie item items :=
  List.filter_cons_of_pos (decide_eq_true tied)

theorem tie_cons_of_not {other : α} (apart : ¬ sorting.Tied item other) (items : List α) :
    sorting.tie item (other :: items) = sorting.tie item items :=
  List.filter_cons_of_neg (by simpa using apart)

/-- **Tied items stay in their order.** -/
theorem tie_apply (preorder : Std.TransCmp sorting.compare) (item : α) (items : List α) :
    sorting.tie item (sorting.apply items) = sorting.tie item items := by
  have equal := equivalence_tied preorder
  -- a tie is in order as it stands, so sorting keeps it as a part of the list
  have level : (sorting.tie item items).Pairwise fun one other =>
      sorting.inOrder one other = true := by
    refine List.pairwise_of_forall_mem_list fun one first other second => inOrder_iff.mpr ?_
    have tied := equal.trans (equal.symm (of_decide_eq_true (List.mem_filter.mp first).2))
      (of_decide_eq_true (List.mem_filter.mp second).2)
    rw [show sorting.compare one other = .eq from tied]
    exact Ordering.noConfusion
  have kept : (sorting.tie item items).Sublist (sorting.apply items) :=
    List.sublist_mergeSort (inOrder_trans preorder) (inOrder_total preorder) level
      List.filter_sublist
  have inside : (sorting.tie item items).Sublist (sorting.tie item (sorting.apply items)) := by
    have filtered := kept.filter fun other => decide (sorting.Tied item other)
    simpa only [tie, List.filter_filter, Bool.and_self] using filtered
  exact (inside.eq_of_length ((perm_apply sorting items).symm.filter _).length_eq).symm

/-- Tied items that are in a sorted list one after the other have been so before. -/
theorem sublist_of_tied (preorder : Std.TransCmp sorting.compare) {one other : α}
    (pair : [one, other].Sublist (sorting.apply items)) (tied : sorting.Tied one other) :
    [one, other].Sublist items := by
  have together : [one, other].Sublist (sorting.tie one (sorting.apply items)) := by
    have kept : (sorting.tie one [one, other]).Sublist _ := pair.filter _
    rwa [tie_cons_of_tied ((equivalence_tied preorder).refl one), tie_cons_of_tied tied] at kept
  rw [tie_apply preorder] at together
  exact together.trans List.filter_sublist

theorem Built.sorts (built : sorting.Built) : sorting.Sorts :=
  have preorder := built.preorder
  { swap := fun _ _ => preorder.eq_swap
    trans := fun one other third below above => inOrder_iff.mp
      (inOrder_trans preorder one other third (inOrder_iff.mpr below) (inOrder_iff.mpr above))
    ties := equivalence_tied preorder
    perm := perm_apply sorting
    ordered := pairwise_apply preorder
    stable := fun items item => tie_apply preorder item items }

/-- **There is one list in order** with the items of each tie as they are. -/
theorem eq_of_ordered (preorder : Std.TransCmp sorting.compare) {list other : List α}
    (ordered : list.Pairwise fun first second => sorting.compare first second ≠ .gt)
    (also : other.Pairwise fun first second => sorting.compare first second ≠ .gt)
    (same : ∀ item, sorting.tie item list = sorting.tie item other) : list = other := by
  have equal := equivalence_tied preorder
  -- an item is the first one of its own tie
  have head (item : α) (rest : List α) := tie_cons_of_tied (equal.refl item) rest
  have shared {item : α} {rest others : List α}
      (alike : sorting.tie item (item :: rest) = sorting.tie item others) : item ∈ others := by
    rw [head item rest] at alike
    exact (List.mem_filter.mp (alike ▸ List.mem_cons_self)).1
  induction list generalizing other with
  | nil =>
    cases other with
    | nil => rfl
    | cons item rest => exact (List.not_mem_nil (shared (same item).symm)).elim
  | cons one list ih =>
    cases other with
    | nil => exact (List.not_mem_nil (shared (same one))).elim
    | cons item rest =>
      rw [List.pairwise_cons] at ordered also
      have tied : sorting.Tied one item := by
        rcases List.mem_cons.mp (shared (same item).symm) with rfl | later
        · exact equal.refl _
        rcases List.mem_cons.mp (shared (same one)) with rfl | behind
        · exact equal.refl _
        exact tied_of_both preorder (ordered.1 item later) (also.1 one behind)
      have first := same one
      rw [head one list, tie_cons_of_tied tied] at first
      obtain ⟨rfl, _⟩ := List.cons.inj first
      refine congrArg _ (ih ordered.2 also.2 fun other => ?_)
      have tails := same other
      by_cases held : sorting.Tied other one
      · rw [tie_cons_of_tied held, tie_cons_of_tied held] at tails
        exact (List.cons.inj tails).2
      · rwa [tie_cons_of_not held, tie_cons_of_not held] at tails

/-! ## Part 3 — one order after the other -/

theorem tie_andThen (first second : Sorting α) (item : α) (items : List α) :
    (first.andThen second).tie item items = first.tie item (second.tie item items) := by
  rw [tie, tie, tie, List.filter_filter]
  refine List.filter_congr fun other _ => ?_
  rw [← Bool.decide_and, decide_eq_decide]
  exact Ordering.then_eq_eq

theorem tie_comm (first second : Sorting α) (item : α) (items : List α) :
    first.tie item (second.tie item items) = second.tie item (first.tie item items) := by
  rw [tie, tie, tie, tie, List.filter_filter, List.filter_filter]
  simp only [Bool.and_comm]

/-- What is sorted by a second order and then by a first one is in order by the first with ties
broken by the second. -/
theorem pairwise_apply_apply (one : Std.TransCmp first.compare)
    (other : Std.TransCmp second.compare) (items : List α) :
    (first.apply (second.apply items)).Pairwise fun left right =>
      (first.andThen second).compare left right ≠ .gt := by
  refine List.pairwise_iff_forall_sublist.mpr fun {left right} pair => ?_
  have below := List.pairwise_iff_forall_sublist.mp (pairwise_apply one (second.apply items)) pair
  show (first.compare left right).then (second.compare left right) ≠ .gt
  cases compared : first.compare left right with
  | lt => exact Ordering.noConfusion
  | gt => exact (below compared).elim
  | eq =>
    -- both are of one tie of the first order, which is as the second order has left it
    exact List.pairwise_iff_forall_sublist.mp (pairwise_apply other items)
      (sublist_of_tied one pair compared)

/-- **Ties are broken by sorting twice**, by the second order first. -/
theorem apply_andThen (one : first.Built) (other : second.Built) (items : List α) :
    (first.andThen second).apply items = first.apply (second.apply items) := by
  have preorder := (one.andThen other).preorder
  refine eq_of_ordered preorder (pairwise_apply preorder items)
    (pairwise_apply_apply one.preorder other.preorder items) fun item => ?_
  calc (first.andThen second).tie item ((first.andThen second).apply items)
    _ = (first.andThen second).tie item items := tie_apply preorder item items
    _ = first.tie item (second.tie item items) := tie_andThen ..
    _ = first.tie item (second.tie item (second.apply items)) := by
      rw [tie_apply other.preorder]
    _ = second.tie item (first.tie item (second.apply items)) := tie_comm ..
    _ = second.tie item (first.tie item (first.apply (second.apply items))) := by
      rw [tie_apply one.preorder item (second.apply items)]
    _ = first.tie item (second.tie item (first.apply (second.apply items))) := tie_comm ..
    _ = (first.andThen second).tie item (first.apply (second.apply items)) :=
      (tie_andThen ..).symm

end Preorders

end Sorting

/-! ## Part 4 — sorted queries -/

/-- **A query sorts what it would have found.** -/
theorem Catalogue.findIn_sorted (catalogue : Catalogue) (keyspace : Keyspace) (criteria : Criteria)
    (sorting : Sorting Json) (page : Page) :
    catalogue.findIn keyspace criteria (some sorting) page =
      (catalogue.findIn keyspace criteria none page).bind fun entities =>
        .done (sorting.apply entities) := by
  unfold findIn
  rw [← Dialogue.bind_eq]
  split <;> simp only [bind_assoc] <;> rfl

/-- **The laws of sortings.** A sorting that is built from total preorders puts lists in order and
leaves ties alone, also where it is reversed. To break ties by a second one is to sort by that one
first; reversing both reverses it, and reversing twice does nothing. A query with a sorting returns,
with whatever store, what it returns without, in order. -/
theorem stable_sortings {α : Type} {first second : Sorting α} (one : first.Built)
    (other : second.Built) :
    first.Sorts ∧ first.reverse.Sorts ∧ (first.andThen second).Sorts ∧
      (∀ items, (first.andThen second).apply items = first.apply (second.apply items)) ∧
      (first.andThen second).reverse.compare = (first.reverse.andThen second.reverse).compare ∧
      first.reverse.reverse.compare = first.compare ∧
      ∀ sorting : Sorting Json, sorting.Built → ∀ (catalogue : Catalogue) (keyspace : Keyspace)
        (criteria : Criteria) (page : Page) {σ : Type}
        (answer : (request : Request) → σ → Except QueryError request.Answer × σ)
        (see : Observation → σ → σ) (state : σ), ∃ outcome after,
          (catalogue.findIn keyspace criteria none page).run answer see state =
            (outcome, after) ∧
          (catalogue.findIn keyspace criteria (some sorting) page).run answer see state =
            (outcome.map sorting.apply, after) ∧
          ∀ values, outcome = .ok values → (sorting.apply values).Perm values := by
  refine ⟨one.sorts, one.reverse.sorts, (one.andThen other).sorts, Sorting.apply_andThen one other,
    rfl, rfl, fun sorting built catalogue keyspace criteria page σ answer see state => ?_⟩
  refine ⟨_, _, rfl, ?_, fun values _ => built.sorts.perm values⟩
  rw [catalogue.findIn_sorted]
  exact Dialogue.run_bind_map rfl fun _ => rfl

/-- Pairs by their first part in descending order, and tied ones by their second part. -/
theorem stable_sortings_pairs :
    ((Sorting.byKey compare Prod.fst).reverse.andThen (Sorting.byKey compare Prod.snd)).apply
        [(1, 2), (2, 1), (1, 1), (2, 0)] =
      (Sorting.byKey compare Prod.fst).reverse.apply
        ((Sorting.byKey compare Prod.snd).apply [(1, 2), (2, 1), (1, 1), (2, 0)]) ∧
    (Sorting.byKey compare Prod.fst).reverse.apply
        ((Sorting.byKey compare Prod.snd).apply [(1, 2), (2, 1), (1, 1), (2, 0)]) =
      [(2, 0), (2, 1), (1, 1), (1, 2)] := by
  have byFirst : (Sorting.byKey compare (Prod.fst : Nat × Nat → Nat)).Built :=
    .byKey inferInstance Prod.fst
  have bySecond : (Sorting.byKey compare (Prod.snd : Nat × Nat → Nat)).Built :=
    .byKey inferInstance Prod.snd
  exact ⟨(stable_sortings byFirst.reverse bySecond).2.2.2.1 _, by cbv⟩

end SecondaryIndex
