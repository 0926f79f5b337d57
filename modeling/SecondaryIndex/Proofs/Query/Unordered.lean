/-
**What is found and counted, whatever the order of members.**

A query that is not paged loads what all collected ids stand for, so the order in which a store
lists them shows in the order of the result and nowhere else:

* `SameFinds` — two outcomes of a query hold the same entities, in whatever order;
* `Store.Alike.sameFinds`, `Store.Alike.eval_countIn_eq` — stores that differ in the order of
  members only find the same entities and count as many;
* `updates_of_different_ids_commute` — so neither depends on the order in which entities of
  different ids were written and removed.
-/

import Mathlib.Data.List.Perm.Basic
import SecondaryIndex.Proofs.Collections
import SecondaryIndex.Proofs.Query.Evaluation
import SecondaryIndex.Proofs.Store.Commutation
import SecondaryIndex.Proofs.Store.Consistency

namespace SecondaryIndex

/-! ## Part 1 — outcomes up to order -/

/-- Two outcomes hold the same entities, in whatever order. Where both fail, they do so alike,
unless each comes upon an entity that cannot be read. -/
inductive SameFinds : Except QueryError (List Json) → Except QueryError (List Json) → Prop where
  | found {first second : List Json} (perm : first.Perm second) : SameFinds (.ok first) (.ok second)
  | refused (error : QueryError) : SameFinds (.error error) (.error error)
  | unreadable (first second : ConversionError) :
    SameFinds (.error (.conversion first)) (.error (.conversion second))

namespace SameFinds

variable {first second : Except QueryError (List Json)}

theorem arranged (same : SameFinds first second) (sorting : Option (Sorting Json)) :
    SameFinds (first.map (arranged sorting)) (second.map (SecondaryIndex.arranged sorting)) := by
  cases same with
  | found perm =>
    refine .found ?_
    cases sorting with
    | none => exact perm
    | some sorting =>
      exact (List.mergeSort_perm _ _).trans (perm.trans (List.mergeSort_perm _ _).symm)
  | refused error => exact .refused error
  | unreadable first second => exact .unreadable first second

end SameFinds

section Reading

variable {catalogue : Catalogue} {records others : List Record} {error : QueryError}

theorem exists_of_readAll_eq_error (failed : catalogue.readAll records = .error error) :
    ∃ reason, error = .conversion reason := by
  rw [Catalogue.readAll] at failed
  cases read : records.mapM catalogue.type.read with
  | ok values =>
    rw [read] at failed
    cases failed
  | error reason =>
    rw [read] at failed
    cases failed
    exact ⟨reason, rfl⟩

/-- Records in another order are read as the same entities in another order. -/
theorem exists_readAll_of_perm (perm : records.Perm others) {values : List Json}
    (read : catalogue.readAll records = .ok values) :
    ∃ held, catalogue.readAll others = .ok held ∧ values.Perm held := by
  have each := readAll_eq_ok_iff.mp read
  obtain ⟨held, heldEach, heldPerm⟩ := List.perm_comp_forall₂ perm.symm each
  exact ⟨held, readAll_eq_ok_iff.mpr heldEach, heldPerm.symm⟩

theorem sameFinds_readAll (perm : records.Perm others) :
    SameFinds (catalogue.readAll records) (catalogue.readAll others) := by
  cases read : catalogue.readAll records with
  | ok values =>
    obtain ⟨held, otherRead, same⟩ := exists_readAll_of_perm perm read
    rw [otherRead]
    exact .found same
  | error error =>
    obtain ⟨reason, rfl⟩ := exists_of_readAll_eq_error read
    cases otherRead : catalogue.readAll others with
    | ok held =>
      obtain ⟨values, back, _⟩ := exists_readAll_of_perm perm.symm otherRead
      rw [read] at back
      cases back
    | error other =>
      obtain ⟨otherReason, rfl⟩ := exists_of_readAll_eq_error otherRead
      exact .unreadable reason otherReason

end Reading

/-! ## Part 2 — stores that differ in order only -/

namespace Store.Alike

variable {first second : Store} {catalogue : Catalogue} {keyspace : Keyspace} {criteria : Criteria}
  {plan : Plan} {group : Group}

theorem fieldsAt_eq (alike : first.Alike second) (key : Bytes) :
    first.fieldsAt key = second.fieldsAt key := by
  rw [fieldsAt, fieldsAt, alike.fields]

theorem get?_eq (alike : first.Alike second) (id : Bytes) :
    first.get? keyspace id = second.get? keyspace id := by
  rw [Store.get?, Store.get?, alike.fieldsAt_eq]

/-- The members of a set are the same ones, in some order. -/
theorem perm_members (alike : first.Alike second) (key : Bytes) :
    (first.members key).toList.Perm (second.members key).toList :=
  (List.perm_ext_iff_of_nodup (first.members key).nodup (second.members key).nodup).mpr
    (alike.members key)

theorem mem_commonIds_iff (alike : first.Alike second) (id : Bytes) :
    id ∈ group.commonIds first ↔ id ∈ group.commonIds second := by
  simp only [mem_commonIds, alike.members]

theorem mem_jointIds_iff (alike : first.Alike second) (id : Bytes) :
    id ∈ group.jointIds first ↔ id ∈ group.jointIds second := by
  simp only [mem_jointIds, alike.members]

theorem mem_closeIds_iff (alike : first.Alike second) (id : Bytes) :
    id ∈ plan.closeIds first ↔ id ∈ plan.closeIds second := by
  rw [Plan.closeIds, Plan.closeIds]
  cases plan.near? with
  | none => exact Iff.rfl
  | some area => simp only [Option.elim_some, mem_within, alike.positions]

/-- The ids that a plan finds are the same ones, in some order. -/
theorem perm_found (alike : first.Alike second) (plan : Plan) :
    (plan.found first).Perm (plan.found second) := by
  refine InsertionSet.perm_ofList fun id => ?_
  simp only [List.mem_append, alike.mem_commonIds_iff, alike.mem_jointIds_iff,
    alike.mem_closeIds_iff]

/-- **Stores that differ in order only find the same entities.** -/
theorem sameFinds (alike : first.Alike second) (catalogue : Catalogue) (keyspace : Keyspace)
    (criteria : Criteria) (sorting : Option (Sorting Json)) :
    SameFinds ((catalogue.findIn keyspace criteria sorting .whole).eval first).1
      ((catalogue.findIn keyspace criteria sorting .whole).eval second).1 := by
  rw [Catalogue.eval_findIn, Catalogue.eval_findIn, funext alike.get?_eq]
  refine SameFinds.arranged ?_ sorting
  rw [Catalogue.named, Catalogue.named]
  split
  · exact sameFinds_readAll ((alike.perm_members keyspace.registryKey).filterMap _)
  · cases catalogue.plan keyspace criteria with
    | error error => exact .refused error
    | ok plan => exact sameFinds_readAll ((alike.perm_found plan).filterMap _)

theorem tally_eq (alike : first.Alike second) {members others : List Bytes}
    (same : ∀ id, id ∈ members ↔ id ∈ others) :
    group.tally keyspace first members = group.tally keyspace second others := by
  refine InsertionSet.size_ofList_congr fun id => ?_
  simp only [List.mem_append, same, alike.fieldsAt_eq]

/-- **Stores that differ in order only count as many entities.** -/
theorem eval_countIn_eq (alike : first.Alike second) (catalogue : Catalogue) (keyspace : Keyspace)
    (criteria : Criteria) :
    ((catalogue.countIn keyspace criteria).eval first).1 =
      ((catalogue.countIn keyspace criteria).eval second).1 := by
  rw [Catalogue.eval_countIn, Catalogue.eval_countIn, Catalogue.counted, Catalogue.counted]
  have registered : first.count keyspace = second.count keyspace :=
    (alike.perm_members keyspace.registryKey).length_eq
  have tallied : ∀ plan : Plan,
      plan.all.tally keyspace first (plan.all.commonIds first) +
          plan.any.tally keyspace first (plan.any.jointIds first) =
        plan.all.tally keyspace second (plan.all.commonIds second) +
          plan.any.tally keyspace second (plan.any.jointIds second) :=
    fun plan => by
      rw [alike.tally_eq alike.mem_commonIds_iff, alike.tally_eq alike.mem_jointIds_iff]
  rw [registered, funext tallied]

end Store.Alike

/-! ## Part 3 — updates of different ids -/

/-- **Updates of different ids commute.** After any history of one keyspace, two of them lead to the
same content in either order, the order of members apart, and each removal reports the same. So what
is found without paging and what is counted does not depend on the order in which any number of
updates of different ids were made. -/
theorem updates_of_different_ids_commute {keyspace : Keyspace} {history : History} :
    (∀ first second : Update, Orderly keyspace (history ++ [first, second]) →
      first.id ≠ second.id →
        (second.apply (first.apply history.store)).Alike
          (first.apply (second.apply history.store)) ∧
        first.status? ((second.apply history.store).reply first.request) =
          first.status? (history.store.reply first.request) ∧
        second.status? ((first.apply history.store).reply second.request) =
          second.status? (history.store.reply second.request)) ∧
    ∀ made reordered : History, made.Perm reordered → Orderly keyspace (history ++ made) →
      (made.map Update.id).Nodup → ∀ (catalogue : Catalogue) space criteria,
        (∀ sorting, SameFinds
          ((catalogue.findIn space criteria sorting .whole).eval (History.store (history ++ made))).1
          ((catalogue.findIn space criteria sorting .whole).eval
            (History.store (history ++ reordered))).1) ∧
        ((catalogue.countIn space criteria).eval (History.store (history ++ made))).1 =
          ((catalogue.countIn space criteria).eval (History.store (history ++ reordered))).1 := by
  refine ⟨fun first second orderly different => ?_,
    fun made reordered perm orderly nodup catalogue space criteria => ?_⟩
  · have there := orderly.spares (by simp) (by simp) different
    have back := orderly.spares (by simp) (by simp) (Ne.symm different)
    exact ⟨there.alike back, back.status_eq, there.status_eq⟩
  · have alike := orderly.alike_of_perm perm nodup
    exact ⟨fun sorting => alike.sameFinds catalogue space criteria sorting,
      alike.eval_countIn_eq catalogue space criteria⟩

/-- A third person comes to Tear. -/
def newcomer : Update :=
  .put (.ofTexts "persons" "3" [("city", "\"Tear\"")] [("city", "Tear")]
    [("location", some ⟨1.0, 2.0⟩)])

/-- The second person is removed. -/
def departure : Update :=
  .delete ⟨"persons"⟩ (Bytes.ofString "2") ["location"]

/-- Two persons come to Tear, and one is removed. -/
def comings : History :=
  [newcomer, departure,
    .put (.ofTexts "persons" "4" [("city", "\"Tear\"")] [("city", "Tear"), ("tag", "Tear")]
      [("location", none)])]

theorem updates_of_different_ids_commute_comings :
    Orderly ⟨"persons"⟩ (moving ++ [newcomer, departure]) ∧ newcomer.id ≠ departure.id ∧
      (departure.apply (newcomer.apply moving.store)).Alike
        (newcomer.apply (departure.apply moving.store)) ∧
      Orderly ⟨"persons"⟩ (moving ++ comings) ∧ (comings.map Update.id).Nodup ∧
      comings.Perm comings.reverse ∧
      ∀ (catalogue : Catalogue) criteria sorting, SameFinds
        ((catalogue.findIn ⟨"persons"⟩ criteria sorting .whole).eval
          (History.store (moving ++ comings))).1
        ((catalogue.findIn ⟨"persons"⟩ criteria sorting .whole).eval
          (History.store (moving ++ comings.reverse))).1 := by
  have two : Orderly ⟨"persons"⟩ (moving ++ [newcomer, departure]) := ⟨by decide, by decide⟩
  have different : newcomer.id ≠ departure.id := by decide
  have orderly : Orderly ⟨"persons"⟩ (moving ++ comings) := ⟨by decide, by decide⟩
  have nodup : (comings.map Update.id).Nodup := by decide
  have perm : comings.Perm comings.reverse := comings.reverse_perm.symm
  obtain ⟨pairs, orders⟩ :=
    @updates_of_different_ids_commute ⟨"persons"⟩ moving
  refine ⟨two, different, (pairs newcomer departure two different).1, orderly, nodup, perm, ?_⟩
  intro catalogue criteria sorting
  exact (orders comings comings.reverse perm orderly nodup catalogue ⟨"persons"⟩ criteria).1 sorting

end SecondaryIndex
