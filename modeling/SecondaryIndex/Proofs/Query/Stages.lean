/-
**The three stages of a query.**

A query turns criteria into keys, keys into ids and ids into entities. With a store in the same
process each stage is a function of the store:

* `settles_resolve_of_plain` — declared paths become a plan, and the store is not asked anything;
* `eval_collect` — a plan becomes ids, each of them once (`mem_ids`);
* `eval_loadAll` — ids become the entities that they stand for, in their order;
* `eval_find` — a query that is neither paged nor sorted is the three in sequence.
-/

import Mathlib.Data.List.Forall2
import Mathlib.Data.List.Nodup
import SecondaryIndex.Proofs.Page
import SecondaryIndex.Proofs.Query.Actions
import SecondaryIndex.Proofs.Query.Plans

namespace SecondaryIndex

/-! ## Part 1 — from criteria to keys -/

/-- Criteria without a circle that ask for something at declared paths: for single values where all
have to be met, and there not for the id beside something else. -/
structure Criteria.Plain (schema : Schema) (criteria : Criteria) : Prop where
  near : criteria.near? = none
  some : criteria.isEmpty = false
  resolves : ∀ predicate, predicate ∈ criteria.all ∨ predicate ∈ criteria.any →
    ∃ property, schema.resolve predicate.path = .ok property
  single : ∀ predicate ∈ criteria.all, ∃ value, predicate.values = [value]
  unidentified : 2 ≤ criteria.all.size → ∀ predicate ∈ criteria.all,
    schema.identifies predicate.path = false

/-- The parts of some predicates: ids for those of the id, and the others. -/
def Selection.parts (schema : Schema) (predicates : List Predicate) : Selection where
  direct := (predicates.filter fun predicate => schema.identifies predicate.path).flatMap
    fun predicate => predicate.values.map IndexValue.bytes
  others := predicates.filter fun predicate => !schema.identifies predicate.path

/-- The group of some predicates. -/
def Group.ofPredicates (schema : Schema) (predicates : List Predicate) : Group :=
  .ofSelection schema.keyspace (.parts schema predicates)

/-- The plan of criteria without a circle. -/
def Plan.ofCriteria (schema : Schema) (criteria : Criteria) : Plan :=
  ⟨.ofPredicates schema criteria.all.toList, .ofPredicates schema criteria.any.toList, none⟩

section Resolving

variable {schema : Schema} {predicates : List Predicate} {criteria : Criteria}

/-- Predicates none of which is for the id are all looked up. -/
theorem parts_of_unidentified (unidentified : ∀ predicate ∈ predicates,
      schema.identifies predicate.path = false) :
    Selection.parts schema predicates = ⟨[], predicates⟩ := by
  have none : (predicates.filter fun predicate => schema.identifies predicate.path) = [] := by
    rw [List.filter_eq_nil_iff]
    exact fun predicate listed => by rw [unidentified predicate listed]; exact Bool.false_ne_true
  have all : (predicates.filter fun predicate => !schema.identifies predicate.path) =
      predicates := by
    rw [List.filter_eq_self]
    exact fun predicate listed => by rw [unidentified predicate listed]; rfl
  rw [Selection.parts, none, all]
  rfl

/-- Predicates to be met together are looked up in index sets, a lone one for the id apart. -/
theorem allOf_eq_ofPredicates (type : EntityType)
    (unidentified : 2 ≤ predicates.length → ∀ predicate ∈ predicates,
      type.schema.identifies predicate.path = false) :
    type.catalogue.allOf type.schema.keyspace predicates =
      .ofPredicates type.schema predicates := by
  match predicates, unidentified with
  | [], _ => rfl
  | [predicate], _ => rfl
  | first :: second :: rest, unidentified =>
    rw [Group.ofPredicates, parts_of_unidentified (unidentified (Nat.le_add_left 2 rest.length))]
    rfl

/-- **The first stage**: criteria become keys, and the store is not asked anything. -/
theorem settles_resolve_of_plain (type : EntityType) (plain : criteria.Plain type.schema) :
    Querying.Settles (Plan.resolve IndexValue.bytes type.schema type.schema.keyspace criteria)
      (.ok (.ofCriteria type.schema criteria)) := by
  have fits : criteria.misfit? type.schema = none := Criteria.misfit?_eq_none plain.near
    fun predicate asked => plain.resolves predicate (List.mem_append.mp asked)
  have planned : type.catalogue.planOf type.schema.keyspace criteria =
      .ofCriteria type.schema criteria := by
    rw [Catalogue.planOf, allOf_eq_ofPredicates type plain.unidentified, plain.near]
    rfl
  have settles := @Plan.settles_of_fits type.catalogue criteria fits type.schema.keyspace
  rwa [planned] at settles

end Resolving

/-! ## Part 2 — from keys to ids -/

/-- The members that all sets of a group have; none if there are no sets. -/
def Group.commonIds (store : Store) (group : Group) : List Bytes :=
  if group.keys.isEmpty then [] else store.intersect group.keys

/-- The members that any set of a group has. -/
def Group.jointIds (store : Store) (group : Group) : List Bytes :=
  if group.keys.isEmpty then [] else store.union group.keys

/-- The ids of a plan without a circle, each once. -/
def Plan.ids (store : Store) (plan : Plan) : List Bytes :=
  (InsertionSet.ofList (plan.all.commonIds store ++ plan.all.direct ++
    (plan.any.jointIds store ++ plan.any.direct))).toList

section Collecting

variable {plan : Plan} {group : Group} {store : Store} {id : Bytes}

theorem mem_commonIds :
    id ∈ group.commonIds store ↔ group.keys ≠ [] ∧ ∀ key ∈ group.keys, id ∈ store.members key := by
  rw [Group.commonIds]
  split
  · rename_i none
    simp [List.isEmpty_iff.mp none]
  · rename_i some
    have keys : group.keys ≠ [] := fun none => some (List.isEmpty_iff.mpr none)
    rw [Store.mem_intersect keys, and_iff_right keys]

theorem mem_jointIds :
    id ∈ group.jointIds store ↔ ∃ key ∈ group.keys, id ∈ store.members key := by
  rw [Group.jointIds]
  split
  · rename_i none
    simp [List.isEmpty_iff.mp none]
  · exact Store.mem_union

theorem mem_ids :
    id ∈ plan.ids store ↔
      ((plan.all.keys ≠ [] ∧ ∀ key ∈ plan.all.keys, id ∈ store.members key) ∨
        id ∈ plan.all.direct) ∨
      ((∃ key ∈ plan.any.keys, id ∈ store.members key) ∨ id ∈ plan.any.direct) := by
  rw [Plan.ids, ← InsertionSet.mem_def, InsertionSet.mem_ofList, List.mem_append, List.mem_append,
    List.mem_append, mem_commonIds, mem_jointIds]

open Querying in
theorem eval_common :
    eval (Catalogue.common group) store = (.ok (group.commonIds store), store) := by
  unfold Catalogue.common Group.commonIds
  split <;> rfl

open Querying in
theorem eval_joint : eval (Catalogue.joint group) store = (.ok (group.jointIds store), store) := by
  unfold Catalogue.joint Group.jointIds
  split <;> rfl

open Querying in
/-- **The second stage**: ids are collected from the sets and from the predicates. -/
theorem eval_collect (near : plan.near? = none) (limit : Option Nat) :
    eval (Catalogue.collect plan limit) store = (.ok (plan.ids store), store) := by
  refine (eval_bind_ok eval_common).trans ((eval_bind_ok eval_joint).trans ?_)
  rw [near, Plan.ids]
  show (Except.ok (InsertionSet.ofList (_ ++ [])).toList, store) = _
  rw [List.append_nil]

end Collecting

/-! ## Part 3 — from ids to entities -/

/-- What is read back of an entity. -/
def Reads (type : EntityType) (entity : Entity) (value : Json) : Prop :=
  ∃ write, entity.write type.schema = .ok write ∧ type.read write.record = .ok value

/-- The store has the fields of the entities that some ids stand for, and no fields of other ids. -/
def Holds (type : EntityType) (store : Store) (pick : Bytes → Option Entity) : Prop :=
  ∀ id,
    (pick id = none ∧ store.fieldsAt (type.schema.keyspace.entityKey id) = ∅) ∨
    ∃ entity write value, pick id = some entity ∧ entity.write type.schema = .ok write ∧
      write.record.fields.isEmpty = false ∧ type.read write.record = .ok value ∧
      write.record = ⟨id, type.schema.keyspace,
        store.fieldsAt (type.schema.keyspace.entityKey id)⟩

section Loading

variable {type : EntityType} {store : Store} {pick : Bytes → Option Entity}

open Querying in
/-- **The third stage**: the entities that the ids stand for are read back, in the order of the
ids. -/
theorem eval_loadAll (holds : Holds type store pick) (ids : List Bytes) :
    ∃ values missing,
      eval (type.catalogue.loadAll type.schema.keyspace (ids.zip
        ((ids.map type.schema.keyspace.entityKey).map store.fieldsAt))) store =
          (.ok (values, missing), store) ∧
      List.Forall₂ (Reads type) (ids.filterMap pick) values := by
  induction ids with
  | nil => exact ⟨[], 0, rfl, .nil⟩
  | cons id ids ih =>
    obtain ⟨values, missing, loaded, reads⟩ := ih
    rw [List.map_cons, List.map_cons, List.zip_cons_cons]
    rcases holds id with
      ⟨unknown, bare⟩ | ⟨entity, write, value, known, written, some, read, record⟩
    · refine ⟨values, missing + 1, ?_, ?_⟩
      · rw [Catalogue.loadAll, bare]
        exact eval_bind_ok loaded
      · rw [List.filterMap_cons_none unknown]
        exact reads
    · have one : eval (type.catalogue.load ⟨id, type.schema.keyspace,
          store.fieldsAt (type.schema.keyspace.entityKey id)⟩) store = (.ok value, store) := by
        rw [← record, Catalogue.load, eval_ofExcept,
          show type.catalogue.type.read write.record = .ok value from read]
        rfl
      refine ⟨value :: values, missing, ?_, ?_⟩
      · rw [record] at some
        rw [Catalogue.loadAll, if_neg (Bool.eq_false_iff.mp some)]
        exact (eval_bind_ok one).trans (eval_bind_ok loaded)
      · rw [List.filterMap_cons_some known]
        exact .cons ⟨write, written, read⟩ reads

theorem apply_whole (ids : List Bytes) : Page.whole.apply ids = ids :=
  (Page.apply_of_unbounded rfl).trans List.drop_zero

open Querying in
/-- **A query that is neither paged nor sorted** reads back what the collected ids stand for. -/
theorem eval_find {criteria : Criteria} (plain : criteria.Plain type.schema)
    (holds : Holds type store pick) :
    ∃ values, (eval (type.catalogue.find criteria none .whole) store).1 = .ok values ∧
      List.Forall₂ (Reads type)
        (((Plan.ofCriteria type.schema criteria).ids store).filterMap pick) values := by
  obtain ⟨values, missing, loaded, reads⟩ :=
    eval_loadAll holds ((Plan.ofCriteria type.schema criteria).ids store)
  have planned : eval (type.catalogue.findPlanned type.schema.keyspace
      (.ofCriteria type.schema criteria) .whole) store = (.ok (values, missing), store) := by
    rw [Catalogue.findPlanned]
    refine (eval_bind_ok (eval_call .connection store)).trans
      ((eval_bind_ok (eval_collect rfl _)).trans ?_)
    rw [apply_whole]
    exact loaded
  have found : eval (type.catalogue.find criteria none .whole) store = (.ok values, store) := by
    rw [Catalogue.find, Catalogue.findIn, plain.some, if_neg Bool.false_ne_true]
    exact (eval_bind_ok ((settles_resolve_of_plain type plain).eval_eq store)).trans
      (eval_bind_ok planned)
  exact ⟨values, congrArg Prod.fst found, reads⟩

end Loading

end SecondaryIndex
