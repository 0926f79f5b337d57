/-
**Queries while others update the store.**

A query asks one call after the other, and before each of them others may update the store. A
`Moment` is the history so far together with the updates that are still to come, one batch for each
call:

* `Querying.among` — the outcome of a query, and the moment after it;
* `Querying.among_still` — with no updates to come the query evaluates as it does alone;
* `among_collect` — each group of a plan is looked up as the store is at its own call;
* `among_find` — a query without a circle reads back the records that the collected ids have in the
  last call, and one that asks for nothing those of the registered ids (`among_find_of_isEmpty`).
-/

import SecondaryIndex.Proofs.Query.Settling
import SecondaryIndex.Proofs.Query.Stages

namespace SecondaryIndex

/-! ## Part 1 — moments -/

/-- A point in a run: the updates so far, and those that others make before each of the calls to
come. -/
structure Moment where
  past : History
  coming : List History

namespace Moment

variable {moment later last : Moment}

/-- The store at the moment. -/
def store (moment : Moment) : Store :=
  moment.past.store

/-- All updates of the run. -/
def run (moment : Moment) : History :=
  moment.past ++ moment.coming.flatten

/-- When the next call is answered: the others have made the first batch. -/
def next (moment : Moment) : Moment :=
  ⟨moment.past ++ moment.coming.headD [], moment.coming.tail⟩

/-- When so many calls have been answered. -/
def forward (moment : Moment) : Nat → Moment
  | 0 => moment
  | calls + 1 => moment.next.forward calls

/-- The moment after a call that the query itself makes. -/
def after (moment : Moment) : Request → Moment
  | .put write => { moment with past := moment.past ++ [.put write] }
  | .delete keyspace id paths =>
    { moment with past := moment.past ++ [.delete keyspace id paths] }
  | _ => moment

theorem store_after (moment : Moment) (request : Request) :
    (moment.after request).store = moment.store.after request := by
  cases request with
  | put write => exact History.store_concat moment.past (.put write)
  | delete keyspace id paths => exact History.store_concat moment.past (.delete keyspace id paths)
  | _ => rfl

@[simp] theorem next_still (past : History) : next ⟨past, []⟩ = ⟨past, []⟩ := by
  rw [next, List.headD_nil, List.append_nil, List.tail_nil]

@[simp] theorem forward_still (past : History) (calls : Nat) :
    forward ⟨past, []⟩ calls = ⟨past, []⟩ := by
  induction calls with
  | zero => rfl
  | succ calls ih => rw [forward, next_still, ih]

/-- The second moment is the first one after some of the updates to come. -/
def Before (moment later : Moment) : Prop :=
  ∃ made, later.past = moment.past ++ made ∧
    made ++ later.coming.flatten = moment.coming.flatten

theorem Before.refl (moment : Moment) : moment.Before moment :=
  ⟨[], (List.append_nil _).symm, rfl⟩

theorem Before.trans (first : moment.Before later) (second : later.Before last) :
    moment.Before last := by
  obtain ⟨made, past, coming⟩ := first
  obtain ⟨more, morePast, moreComing⟩ := second
  refine ⟨made ++ more, ?_, ?_⟩
  · rw [morePast, past, List.append_assoc]
  · rw [List.append_assoc, moreComing, coming]

theorem before_next (moment : Moment) : moment.Before moment.next := by
  refine ⟨moment.coming.headD [], rfl, ?_⟩
  obtain ⟨past, coming⟩ := moment
  cases coming <;> rfl

theorem before_forward (moment : Moment) (calls : Nat) : moment.Before (moment.forward calls) := by
  induction calls generalizing moment with
  | zero => exact .refl moment
  | succ calls ih => exact moment.before_next.trans (ih moment.next)

theorem Before.run_eq (before : moment.Before later) : later.run = moment.run := by
  obtain ⟨made, past, coming⟩ := before
  rw [run, run, past, List.append_assoc, coming]

end Moment

/-! ## Part 2 — queries in a run -/

namespace Querying

variable {α β : Type} {query : Querying α} {rest : α → Querying β} {moment later : Moment}
  {value : α} {error : QueryError}

/-- The outcome of a query that starts at a moment, and the moment after it. -/
def among (query : Querying α) (moment : Moment) : Except QueryError α × Moment :=
  query.run (fun request moment =>
      (.ok (moment.next.store.reply request), moment.next.after request))
    (fun _ moment => moment) moment

theorem among_bind_ok (first : among query moment = (.ok value, later)) :
    among (query.bind rest) moment = among (rest value) later :=
  Dialogue.run_bind_ok first

theorem among_bind_error (first : among query moment = (.error error, later)) :
    among (query.bind rest) moment = (.error error, later) :=
  Dialogue.run_bind_error first

/-- A query that settles lets no other come in between. -/
theorem Settles.among_eq {outcome : Except QueryError α} (settles : Settles query outcome)
    (moment : Moment) : among query moment = (outcome, moment) :=
  settles.run _ _ (fun _ _ => rfl) moment

/-- A query that goes on with a computed value maps its outcome. -/
theorem among_bind_map {outcome : Except QueryError α} {make : α → β}
    (first : among query moment = (outcome, later))
    (going : ∀ value, among (rest value) later = (.ok (make value), later)) :
    among (query.bind rest) moment = (outcome.map make, later) :=
  Dialogue.run_bind_map first going

/-- **With no updates to come a query evaluates as it does alone.** -/
theorem among_still (query : Querying α) (past : History) :
    ∃ later : History, eval query past.store = ((among query ⟨past, []⟩).1, later.store) ∧
      (among query ⟨past, []⟩).2 = ⟨later, []⟩ := by
  induction query generalizing past with
  | done value => exact ⟨past, rfl, rfl⟩
  | fail error => exact ⟨past, rfl, rfl⟩
  | note seen rest ih => exact ih past
  | ask request rest ih =>
    have asked : among (.ask request rest) ⟨past, []⟩ =
        among (rest (past.store.reply request)) (Moment.after ⟨past, []⟩ request) := by
      show among _ ((Moment.next ⟨past, []⟩).after request) = _
      rw [Moment.next_still]
      rfl
    have still : Moment.after ⟨past, []⟩ request =
        ⟨(Moment.after ⟨past, []⟩ request).past, []⟩ := by
      cases request <;> rfl
    have store : (Moment.after ⟨past, []⟩ request).past.store = past.store.after request :=
      Moment.store_after ⟨past, []⟩ request
    rw [asked, still]
    have rested := ih (past.store.reply request) (Moment.after ⟨past, []⟩ request).past
    rw [store] at rested
    exact rested

end Querying

/-! ## Part 3 — from criteria to ids -/

/-- The group of predicates to be met together: a lone one may name ids, several are looked up. -/
def Group.together (schema : Schema) : List Predicate → Group
  | [predicate] => .ofPredicates schema [predicate]
  | predicates => ⟨[], indexKeys schema.keyspace predicates⟩

/-- The paths of all predicates are declared. -/
def Criteria.Resolves (schema : Schema) (criteria : Criteria) : Prop :=
  ∀ predicate, predicate ∈ criteria.all ∨ predicate ∈ criteria.any →
    ∃ property, schema.resolve predicate.path = .ok property

/-- The plan of criteria whose circle is left out. -/
def Plan.besideNear (schema : Schema) (criteria : Criteria) : Plan :=
  ⟨.together schema criteria.all.toList, .ofPredicates schema criteria.any.toList, none⟩

/-- How many calls the look-up of a group makes. -/
def Group.calls (group : Group) : Nat :=
  if group.keys.isEmpty then 0 else 1

namespace Plan

/-- When the first group has been looked up. -/
def allAt (plan : Plan) (moment : Moment) : Moment :=
  moment.forward plan.all.calls

/-- When the second group has been looked up. -/
def anyAt (plan : Plan) (moment : Moment) : Moment :=
  (plan.allAt moment).forward plan.any.calls

/-- The ids of a plan without a circle, each group as it is when it is looked up. -/
def idsAt (plan : Plan) (moment : Moment) : List Bytes :=
  (InsertionSet.ofList (plan.all.commonIds (plan.allAt moment).store ++ plan.all.direct ++
    (plan.any.jointIds (plan.anyAt moment).store ++ plan.any.direct))).toList

/-- When fields are fetched: behind the connection and the look-ups. -/
def fetchAt (plan : Plan) (moment : Moment) : Moment :=
  (plan.anyAt moment.next).next

theorem before_allAt (plan : Plan) (moment : Moment) : moment.Before (plan.allAt moment) :=
  moment.before_forward _

theorem before_anyAt (plan : Plan) (moment : Moment) : moment.Before (plan.anyAt moment) :=
  (plan.before_allAt moment).trans (Moment.before_forward _ _)

theorem before_fetchAt (plan : Plan) (moment : Moment) : moment.Before (plan.fetchAt moment) :=
  moment.before_next.trans ((plan.before_anyAt _).trans (Moment.before_next _))

theorem idsAt_still (plan : Plan) (past : History) :
    plan.idsAt ⟨past, []⟩ = plan.ids past.store := by
  rw [idsAt, anyAt, allAt, Moment.forward_still, Moment.forward_still]
  rfl

theorem fetchAt_still (plan : Plan) (past : History) : plan.fetchAt ⟨past, []⟩ = ⟨past, []⟩ := by
  rw [fetchAt, anyAt, allAt, Moment.next_still, Moment.forward_still, Moment.forward_still,
    Moment.next_still]

theorem nodup_idsAt (plan : Plan) (moment : Moment) : (plan.idsAt moment).Nodup :=
  InsertionSet.nodup _

end Plan

section Collecting

variable {schema : Schema} {criteria : Criteria} {predicates : List Predicate} {plan : Plan}
  {moment : Moment} {id : Bytes}

theorem mem_idsAt :
    id ∈ plan.idsAt moment ↔
      ((plan.all.keys ≠ [] ∧ ∀ key ∈ plan.all.keys, id ∈ (plan.allAt moment).store.members key) ∨
        id ∈ plan.all.direct) ∨
      ((∃ key ∈ plan.any.keys, id ∈ (plan.anyAt moment).store.members key) ∨
        id ∈ plan.any.direct) := by
  rw [Plan.idsAt, ← InsertionSet.mem_def, InsertionSet.mem_ofList, List.mem_append, List.mem_append,
    List.mem_append, mem_commonIds, mem_jointIds]

open Querying

theorem allOf_eq_together (type : EntityType) (predicates : List Predicate) :
    type.catalogue.allOf type.schema.keyspace predicates = .together type.schema predicates := by
  match predicates with
  | [] => rfl
  | [_] => rfl
  | _ :: _ :: _ => rfl

/-- Declared paths become a plan, and no call is made. -/
theorem settles_resolve_besideNear (type : EntityType) (near : criteria.near? = none)
    (resolves : criteria.Resolves type.schema) :
    Settles (Plan.resolve IndexValue.bytes type.schema type.schema.keyspace criteria)
      (.ok (.besideNear type.schema criteria)) := by
  have fits : criteria.misfit? type.schema = none := Criteria.misfit?_eq_none near
    fun predicate asked => resolves predicate (List.mem_append.mp asked)
  have planned : type.catalogue.planOf type.schema.keyspace criteria =
      .besideNear type.schema criteria := by
    rw [Catalogue.planOf, allOf_eq_together, near]
    rfl
  have settles := @Plan.settles_of_fits type.catalogue criteria fits type.schema.keyspace
  rwa [planned] at settles

theorem among_common (group : Group) (moment : Moment) :
    among (Catalogue.common group) moment =
      (.ok (group.commonIds (moment.forward group.calls).store), moment.forward group.calls) := by
  unfold Catalogue.common Group.commonIds Group.calls
  split <;> rfl

theorem among_joint (group : Group) (moment : Moment) :
    among (Catalogue.joint group) moment =
      (.ok (group.jointIds (moment.forward group.calls).store), moment.forward group.calls) := by
  unfold Catalogue.joint Group.jointIds Group.calls
  split <;> rfl

/-- **Ids are collected** from each group as it is at its own call. -/
theorem among_collect (near : plan.near? = none) (limit : Option Nat) (moment : Moment) :
    among (Catalogue.collect plan limit) moment = (.ok (plan.idsAt moment), plan.anyAt moment) := by
  refine (among_bind_ok (among_common plan.all moment)).trans
    ((among_bind_ok (among_joint plan.any _)).trans ?_)
  rw [near, Plan.idsAt]
  show (Except.ok (InsertionSet.ofList (_ ++ [])).toList, plan.anyAt moment) = _
  rw [List.append_nil]
  rfl

end Collecting

/-! ## Part 4 — from ids to entities -/

/-- How many of some ids have no fields. -/
def Store.missing (store : Store) (keyspace : Keyspace) (ids : List Bytes) : Nat :=
  ids.countP fun id => (store.get? keyspace id).isNone

/-- Fetched records with fields are those that the store has. -/
theorem filledRecords_fetched (store : Store) (keyspace : Keyspace) (ids : List Bytes) :
    filledRecords keyspace (ids.zip ((ids.map keyspace.entityKey).map store.fieldsAt)) =
      ids.filterMap (store.get? keyspace) := by
  induction ids with
  | nil => rfl
  | cons id ids ih =>
    rw [List.map_cons, List.map_cons, List.zip_cons_cons]
    by_cases bare : (store.fieldsAt (keyspace.entityKey id)).isEmpty
    · have none : store.get? keyspace id = none := if_pos bare
      rw [filledRecords_cons_bare bare, ih, List.filterMap_cons_none none]
    · have some : store.get? keyspace id = some _ := if_neg bare
      rw [filledRecords_cons_filled bare, ih, List.filterMap_cons_some some]

theorem bareIds_fetched (store : Store) (keyspace : Keyspace) (ids : List Bytes) :
    bareIds (ids.zip ((ids.map keyspace.entityKey).map store.fieldsAt)) =
      store.missing keyspace ids := by
  induction ids with
  | nil => rfl
  | cons id ids ih =>
    rw [List.map_cons, List.map_cons, List.zip_cons_cons, Store.missing, List.countP_cons]
    by_cases bare : (store.fieldsAt (keyspace.entityKey id)).isEmpty
    · have none : store.get? keyspace id = none := if_pos bare
      rw [bareIds_cons_bare bare, ih, none]
      rfl
    · have some : store.get? keyspace id = some _ := if_neg bare
      rw [bareIds_cons_filled bare, ih, some]
      rfl

/-- **Ids without fields are passed over**, and the others are read in their order. -/
theorem settles_loadAll_fetched (catalogue : Catalogue) (keyspace : Keyspace) (store : Store)
    (ids : List Bytes) :
    Querying.Settles (catalogue.loadAll keyspace
        (ids.zip ((ids.map keyspace.entityKey).map store.fieldsAt)))
      ((catalogue.readAll (ids.filterMap (store.get? keyspace))).map
        (·, store.missing keyspace ids)) := by
  rw [← filledRecords_fetched, ← bareIds_fetched]
  exact catalogue.settles_loadAll keyspace _

/-! ## Part 5 — whole queries -/

/-- Some values in the order that is asked for, if any. -/
def arranged (sorting : Option (Sorting Json)) (values : List Json) : List Json :=
  sorting.elim values fun sorting => sorting.apply values

/-- The records that a plan finds: ids are collected behind the connection, and those that have
fields in the last call are kept. -/
def Plan.recordsAt (plan : Plan) (keyspace : Keyspace) (moment : Moment) : List Record :=
  (plan.idsAt moment.next).filterMap ((plan.fetchAt moment).store.get? keyspace)

section Finding

variable {type : EntityType} {criteria : Criteria} {plan : Plan} {moment : Moment}

open Querying

/-- What was found is put in order, and its count is observed. -/
theorem among_arranged {query : Querying (List Json × Nat)}
    {outcome : Except QueryError (List Json)} {missing : Nat} {later : Moment}
    (found : among query moment = (outcome.map (·, missing), later)) (keyspace : Keyspace)
    (sorting : Option (Sorting Json)) :
    (among (query.bind fun found => do
      Dialogue.observe (.searched keyspace found.2)
      return arranged sorting found.1) moment).1 = outcome.map (arranged sorting) := by
  cases outcome with
  | ok values => exact congrArg Prod.fst (among_bind_ok found)
  | error error => exact congrArg Prod.fst (among_bind_error found)

theorem among_findPlanned (catalogue : Catalogue) (keyspace : Keyspace) (near : plan.near? = none)
    (moment : Moment) :
    among (catalogue.findPlanned keyspace plan .whole) moment =
      ((catalogue.readAll (plan.recordsAt keyspace moment)).map fun values =>
        (values, (plan.fetchAt moment).store.missing keyspace (plan.idsAt moment.next)),
        plan.fetchAt moment) := by
  have connected : among (call .connection) moment = (.ok (), moment.next) := rfl
  rw [Catalogue.findPlanned]
  refine (among_bind_ok connected).trans ((among_bind_ok (among_collect near _ _)).trans ?_)
  rw [apply_whole]
  exact (settles_loadAll_fetched catalogue keyspace (plan.fetchAt moment).store
    (plan.idsAt moment.next)).among_eq _

/-- **A query without a circle** reads back the records that the collected ids have in its last
call. -/
theorem among_find (sorting : Option (Sorting Json)) (some : criteria.isEmpty = false)
    (near : criteria.near? = none) (resolves : criteria.Resolves type.schema) (moment : Moment) :
    (among (type.catalogue.find criteria sorting .whole) moment).1 =
      (type.catalogue.readAll ((Plan.besideNear type.schema criteria).recordsAt
        type.schema.keyspace moment)).map (arranged sorting) := by
  rw [Catalogue.find, Catalogue.findIn, some, if_neg Bool.false_ne_true]
  refine (congrArg Prod.fst (among_bind_ok
    ((settles_resolve_besideNear type near resolves).among_eq moment))).trans ?_
  exact among_arranged (among_findPlanned type.catalogue _ rfl moment) type.schema.keyspace sorting

theorem among_findPage (catalogue : Catalogue) (keyspace : Keyspace) (moment : Moment) :
    among (catalogue.findPage keyspace .whole) moment =
      ((catalogue.readAll ((moment.next.store.members keyspace.registryKey).toList.filterMap
        (moment.next.store.get? keyspace))).map (·, 0), moment.next) := by
  have fetched : among (call (.pageOf keyspace .whole)) moment =
      (.ok (moment.next.store.pageOf keyspace .whole), moment.next) := rfl
  have loaded := (catalogue.settles_mapM_load
    (moment.next.store.pageOf keyspace .whole)).among_eq moment.next
  rw [Store.pageOf, apply_whole] at fetched loaded
  exact (among_bind_ok fetched).trans (among_bind_map loaded fun _ => rfl)

/-- A query that asks for nothing reads back the records of the registered ids. -/
theorem among_find_of_isEmpty (sorting : Option (Sorting Json)) (none : criteria.isEmpty = true)
    (moment : Moment) :
    (among (type.catalogue.find criteria sorting .whole) moment).1 =
      (type.catalogue.readAll ((moment.next.store.members
        type.schema.keyspace.registryKey).toList.filterMap
          (moment.next.store.get? type.schema.keyspace))).map (arranged sorting) := by
  rw [Catalogue.find, Catalogue.findIn, none, if_pos rfl]
  exact among_arranged (among_findPage type.catalogue _ moment) type.schema.keyspace sorting

end Finding

end SecondaryIndex
