/-
**Which calls a query makes, in which order, and when it stops.**

Whatever a store answers, the kinds of calls that a query makes are known from its criteria. Nothing
is asked of it where a path misfits, and nothing more where a call failed:

* `Criteria.intersects`, `Criteria.unites` — criteria that have sets intersected, or united;
* `Criteria.searchCalls`, `Criteria.countCalls` — the kinds of calls in their order;
* `Catalogue.makes_findPlanned`, `Catalogue.makes_countPlanned` — looking for entities and counting
  them makes those calls, unless one fails;
* `queries_stop_at_failures` — a misfit is reported before a store is asked anything, and the error
  of a call as it is, before anything else is asked.
-/

import SecondaryIndex.Proofs.Query.Courses
import SecondaryIndex.Proofs.Query.FullScan
import SecondaryIndex.Proofs.Query.Unordered

namespace SecondaryIndex

/-! ## Part 1 — kinds of calls -/

/-- A call of a kind, if it is needed. -/
def Request.Kind.when (kind : Request.Kind) (needed : Bool) : List Request.Kind :=
  if needed then [kind] else []

theorem Request.Kind.eq_of_mem_when {kind other : Request.Kind} {needed : Bool}
    (listed : other ∈ kind.when needed) : other = kind := by
  cases needed with
  | false => cases listed
  | true => exact List.mem_singleton.mp listed

namespace Criteria

/-- Some of the predicates hold a value. -/
def holdsValue (predicates : List Predicate) : Bool :=
  predicates.any fun predicate => !predicate.values.isEmpty

/-- The group of predicates to be met together is a lone one on the id. -/
def loneId (schema : Schema) (criteria : Criteria) : Bool :=
  match criteria.all.toList with
  | [predicate] => schema.identifies predicate.path
  | _ => false

/-- Index sets are intersected: the group of predicates to be met together holds a value, and is not
a lone predicate on the id. -/
def intersects (schema : Schema) (criteria : Criteria) : Bool :=
  holdsValue criteria.all.toList && !criteria.loneId schema

/-- Index sets are united: the group of predicates of which one is enough holds a value that is not
for the id. -/
def unites (schema : Schema) (criteria : Criteria) : Bool :=
  holdsValue (criteria.any.toList.filter fun predicate => !schema.identifies predicate.path)

/-- A lone predicate on the id that is to be met holds a value. -/
def namesAll (schema : Schema) (criteria : Criteria) : Bool :=
  holdsValue criteria.all.toList && criteria.loneId schema

/-- The group of predicates of which one is enough holds a value for the id. -/
def namesAny (schema : Schema) (criteria : Criteria) : Bool :=
  holdsValue (criteria.any.toList.filter fun predicate => schema.identifies predicate.path)

/-- The calls of a query for entities. -/
def searchCalls (schema : Schema) (criteria : Criteria) : List Request.Kind :=
  .connection :: (Request.Kind.intersect.when (criteria.intersects schema) ++
    Request.Kind.union.when (criteria.unites schema) ++
    Request.Kind.within.when criteria.near?.isSome ++ [.fieldsOf])

/-- The calls of a query for their number, group by group. -/
def countCalls (schema : Schema) (criteria : Criteria) : List Request.Kind :=
  .connection :: ((Request.Kind.intersect.when (criteria.intersects schema) ++
      Request.Kind.fieldsOf.when (criteria.namesAll schema)) ++
    (Request.Kind.union.when (criteria.unites schema) ++
      Request.Kind.fieldsOf.when (criteria.namesAny schema)))

end Criteria

section Groups

variable {catalogue : Catalogue} {keyspace : Keyspace} {criteria : Criteria}
  {predicates : List Predicate}

/-- What is made of each value is nothing exactly if there is no value. -/
theorem isEmpty_flatMap_values {α : Type} (make : Predicate → IndexValue → α)
    (predicates : List Predicate) :
    (predicates.flatMap fun predicate => predicate.values.map (make predicate)).isEmpty =
      !Criteria.holdsValue predicates := by
  rw [Bool.eq_iff_iff, List.isEmpty_iff, List.flatMap_eq_nil_iff, Bool.not_eq_true',
    Criteria.holdsValue, List.any_eq_false]
  simp

theorem isEmpty_keys_anyOf (catalogue : Catalogue) (keyspace : Keyspace)
    (predicates : List Predicate) :
    (catalogue.anyOf keyspace predicates).keys.isEmpty = !Criteria.holdsValue
      (predicates.filter fun predicate => !catalogue.schema.identifies predicate.path) :=
  isEmpty_flatMap_values (fun predicate value => keyspace.indexKey predicate.path value.bytes) _

theorem isEmpty_direct_anyOf (catalogue : Catalogue) (keyspace : Keyspace)
    (predicates : List Predicate) :
    (catalogue.anyOf keyspace predicates).direct.isEmpty = !Criteria.holdsValue
      (predicates.filter fun predicate => catalogue.schema.identifies predicate.path) :=
  isEmpty_flatMap_values (fun _ value => catalogue.identify value) _

/-- Index sets are intersected exactly if the plan has keys for it. -/
theorem intersects_eq (catalogue : Catalogue) (keyspace : Keyspace) (criteria : Criteria) :
    criteria.intersects catalogue.schema =
      !(catalogue.planOf keyspace criteria).all.keys.isEmpty := by
  rw [Catalogue.planOf, Criteria.intersects, Criteria.loneId]
  cases criteria.all.toList with
  | nil => rfl
  | cons first rest =>
    cases rest with
    | nil =>
      rw [Catalogue.allOf, isEmpty_keys_anyOf, Bool.not_not]
      cases identified : catalogue.schema.identifies first.path <;>
        simp [Criteria.holdsValue, identified]
    | cons second rest =>
      have keys : (indexKeys keyspace (first :: second :: rest)).isEmpty =
          !Criteria.holdsValue (first :: second :: rest) :=
        isEmpty_flatMap_values (fun predicate value =>
          keyspace.indexKey predicate.path value.bytes) _
      show (_ && true) = !(indexKeys keyspace (first :: second :: rest)).isEmpty
      rw [keys, Bool.not_not, Bool.and_true]

/-- A lone predicate on the id names ids exactly if the plan has them. -/
theorem namesAll_eq (catalogue : Catalogue) (keyspace : Keyspace) (criteria : Criteria) :
    criteria.namesAll catalogue.schema =
      !(catalogue.planOf keyspace criteria).all.direct.isEmpty := by
  rw [Catalogue.planOf, Criteria.namesAll, Criteria.loneId]
  cases criteria.all.toList with
  | nil => rfl
  | cons first rest =>
    cases rest with
    | nil =>
      rw [Catalogue.allOf, isEmpty_direct_anyOf, Bool.not_not]
      cases identified : catalogue.schema.identifies first.path <;>
        simp [Criteria.holdsValue, identified]
    | cons second rest => exact Bool.and_false _

theorem unites_eq (catalogue : Catalogue) (keyspace : Keyspace) (criteria : Criteria) :
    criteria.unites catalogue.schema =
      !(catalogue.planOf keyspace criteria).any.keys.isEmpty := by
  rw [Catalogue.planOf, isEmpty_keys_anyOf, Bool.not_not]
  rfl

theorem namesAny_eq (catalogue : Catalogue) (keyspace : Keyspace) (criteria : Criteria) :
    criteria.namesAny catalogue.schema =
      !(catalogue.planOf keyspace criteria).any.direct.isEmpty := by
  rw [Catalogue.planOf, isEmpty_direct_anyOf, Bool.not_not]
  rfl

theorem isSome_near_planOf (catalogue : Catalogue) (keyspace : Keyspace) (criteria : Criteria) :
    (catalogue.planOf keyspace criteria).near?.isSome = criteria.near?.isSome :=
  Option.isSome_map

end Groups

/-! ## Part 2 — calls of the stages -/

section Stages

variable {catalogue : Catalogue} {keyspace : Keyspace} {criteria : Criteria}
  {fails : QueryError → Prop}

open Querying

theorem makes_common (group : Group) :
    Makes fails (Request.Kind.intersect.when !group.keys.isEmpty) (Catalogue.common group) := by
  rw [Catalogue.common]
  cases group.keys.isEmpty with
  | true => exact rfl
  | false => exact Makes.call (.intersect group.keys)

theorem makes_joint (group : Group) :
    Makes fails (Request.Kind.union.when !group.keys.isEmpty) (Catalogue.joint group) := by
  rw [Catalogue.joint]
  cases group.keys.isEmpty with
  | true => exact rfl
  | false => exact Makes.call (.union group.keys)

theorem makes_inArea (limit : Option Nat) (near? : Option Area) :
    Makes fails (Request.Kind.within.when near?.isSome) (Catalogue.inArea limit near?) := by
  cases near? with
  | none => exact rfl
  | some area => exact Makes.call (.within area.key area.circle limit)

theorem makes_stored (keyspace : Keyspace) (ids : List Bytes) :
    Makes fails (Request.Kind.fieldsOf.when !ids.isEmpty) (Catalogue.stored keyspace ids) := by
  rw [Catalogue.stored]
  cases ids.isEmpty with
  | true => exact rfl
  | false => exact (Makes.call (.fieldsOf (ids.map keyspace.entityKey))).bind_nil fun _ => rfl

/-- Reading what was fetched makes no call, and can only fail since something cannot be read. -/
theorem makes_loadAll (catalogue : Catalogue) (keyspace : Keyspace)
    (fetched : List (Bytes × Fields)) :
    Makes (fun error => ∃ reason, error = .conversion reason) []
      (catalogue.loadAll keyspace fetched) := by
  refine (catalogue.settles_loadAll keyspace fetched).makes fun error failed => ?_
  cases read : catalogue.readAll (filledRecords keyspace fetched) with
  | ok values =>
    rw [read] at failed
    cases failed
  | error reason =>
    rw [read] at failed
    cases failed
    exact exists_of_readAll_eq_error read

theorem makes_collect (plan : Plan) (limit : Option Nat) :
    Makes (fun _ => False)
      (Request.Kind.intersect.when (!plan.all.keys.isEmpty) ++
        Request.Kind.union.when (!plan.any.keys.isEmpty) ++
        Request.Kind.within.when plan.near?.isSome) (Catalogue.collect plan limit) := by
  rw [List.append_assoc]
  exact (makes_common plan.all).bind fun _ => (makes_joint plan.any).bind fun _ =>
    (makes_inArea limit plan.near?).bind_nil fun _ => rfl

/-- **The calls of a query for entities** whose plan is made. -/
theorem makes_findPlanned (catalogue : Catalogue) (keyspace : Keyspace) (criteria : Criteria)
    (page : Page) :
    Makes (fun error => ∃ reason, error = .conversion reason)
      (criteria.searchCalls catalogue.schema)
      (catalogue.findPlanned keyspace (catalogue.planOf keyspace criteria) page) := by
  rw [Criteria.searchCalls, intersects_eq catalogue keyspace, unites_eq catalogue keyspace,
    ← isSome_near_planOf catalogue keyspace]
  exact (Makes.call .connection).bind fun _ => (makes_collect _ _).bind fun ids =>
    (Makes.call (.fieldsOf ((page.apply ids).map keyspace.entityKey))).bind fun fetched =>
      makes_loadAll catalogue keyspace _

/-- The calls of a group that is counted. -/
theorem makes_countGroup (keyspace : Keyspace) {group : Group} {members : Querying (List Bytes)}
    {kinds : List Request.Kind} (asked : Makes (fun _ => False) kinds members) :
    Makes (fun _ => False) (kinds ++ Request.Kind.fieldsOf.when !group.direct.isEmpty)
      (Catalogue.countGroup keyspace group members) :=
  asked.bind fun _ => (makes_stored keyspace group.direct).bind_nil fun _ => rfl

/-- **The calls of a query for the number of entities** whose plan is made; it does not fail by
itself. -/
theorem makes_countPlanned (catalogue : Catalogue) (keyspace : Keyspace) (criteria : Criteria) :
    Makes (fun _ => False) (criteria.countCalls catalogue.schema)
      (Catalogue.countPlanned keyspace (catalogue.planOf keyspace criteria)) := by
  rw [Criteria.countCalls, intersects_eq catalogue keyspace, namesAll_eq catalogue keyspace,
    unites_eq catalogue keyspace, namesAny_eq catalogue keyspace]
  exact (Makes.call .connection).bind fun _ =>
    (makes_countGroup keyspace (makes_common _)).bind fun _ =>
      (makes_countGroup keyspace (makes_joint _)).bind_nil fun _ => rfl

/-- Looking for entities makes its calls in their order, if all paths fit. -/
theorem makes_findIn (some : criteria.isEmpty = false)
    (fits : criteria.misfit? catalogue.schema = none) (keyspace : Keyspace)
    (sorting : Option (Sorting Json)) (page : Page) :
    Makes (fun error => ∃ reason, error = .conversion reason)
      (criteria.searchCalls catalogue.schema)
      (catalogue.findIn keyspace criteria sorting page) := by
  rw [Catalogue.findIn_eq some]
  exact (Plan.settles_of_fits fits keyspace).makes_bind
    ((makes_findPlanned catalogue keyspace criteria page).bind_nil fun _ => rfl)

/-- Counting entities makes its calls in their order, if all paths fit. -/
theorem makes_countIn (some : criteria.isEmpty = false)
    (fits : criteria.misfit? catalogue.schema = none) (keyspace : Keyspace) :
    Makes (fun _ => False) (criteria.countCalls catalogue.schema)
      (catalogue.countIn keyspace criteria) := by
  rw [Catalogue.countIn_eq some]
  exact (Plan.settles_of_fits fits keyspace).makes_bind
    (makes_countPlanned catalogue keyspace criteria)

end Stages

/-! ## Part 3 — where queries stop -/

/-- **What becomes of a query that makes its calls in an order.** One connection is asked for,
before anything else. Calls of each kind are made in their order and no others, and all of them,
unless one fails: that is the last one, and its error is the outcome as it is. Other errors are the
query's own. -/
structure Disciplined {α : Type} (own : QueryError → Prop) (kinds : List Request.Kind)
    (outcome : Except QueryError α) (turns : List Turn) : Prop where
  connects : ∃ rest, turns.map Turn.kind = .connection :: rest ∧ .connection ∉ rest
  ordered : turns.map Turn.kind <+: kinds
  complete : (∀ turn ∈ turns, ∃ reply, turn.outcome = .ok reply) → turns.map Turn.kind = kinds
  stops : ∀ before turn after error, turns = before ++ turn :: after →
    turn.outcome = .error error → after = [] ∧ outcome = .error (.store error)
  errors : ∀ error, outcome = .error error → own error ∨ ∃ reason, error = .store reason

section Discipline

variable {α σ : Type} {own : QueryError → Prop} {kinds : List Request.Kind}
  {outcome : Except QueryError α} {turns : List Turn} {criteria : Criteria}

open Querying

theorem Querying.Follows.disciplined (follows : Follows own (.connection :: kinds) turns outcome)
    (once : .connection ∉ kinds) : Disciplined own (.connection :: kinds) outcome turns where
  connects := by
    generalize made : Request.Kind.connection :: kinds = all at follows
    cases follows with
    | done value => cases made
    | failed own => cases made
    | refused request error rest =>
      exact ⟨[], congrArg (· :: []) (List.cons.inj made).1.symm, List.not_mem_nil⟩
    | @answered request reply rest turns _ follows =>
      obtain ⟨first, rfl⟩ := List.cons.inj made
      exact ⟨turns.map Turn.kind, congrArg (· :: turns.map Turn.kind) first.symm,
        fun listed => once (follows.kinds_prefix.subset listed)⟩
  ordered := follows.kinds_prefix
  complete answered := (follows.complete answered).1
  stops _ _ _ _ made failed := follows.stops made failed
  errors _ failed := follows.error_cases failed

theorem connection_notMem_searchCalls (schema : Schema) (criteria : Criteria) :
    .connection ∉ (criteria.searchCalls schema).tail := by
  intro listed
  simp only [Criteria.searchCalls, List.tail_cons, List.mem_append, List.mem_singleton] at listed
  rcases listed with ((listed | listed) | listed) | listed
  · cases Request.Kind.eq_of_mem_when listed
  · cases Request.Kind.eq_of_mem_when listed
  · cases Request.Kind.eq_of_mem_when listed
  · cases listed

theorem connection_notMem_countCalls (schema : Schema) (criteria : Criteria) :
    .connection ∉ (criteria.countCalls schema).tail := by
  intro listed
  simp only [Criteria.countCalls, List.tail_cons, List.mem_append] at listed
  rcases listed with (listed | listed) | listed | listed <;>
    cases Request.Kind.eq_of_mem_when listed

/-- A path that misfits is reported before a store is asked anything. -/
theorem held_of_misfit {catalogue : Catalogue} {error : MappingError}
    (misfit : criteria.misfit? catalogue.schema = some error) (keyspace : Keyspace)
    (sorting : Option (Sorting Json)) (page : Page) (answerer : Answerer σ) (course : Course σ) :
    (catalogue.findIn keyspace criteria sorting page).held answerer course =
        (.error (.mapping error), course) ∧
      (catalogue.countIn keyspace criteria).held answerer course =
        (.error (.mapping error), course.see (.tallied keyspace)) := by
  have some := Criteria.isEmpty_of_misfit misfit
  have settles := Plan.settles_of_misfit misfit keyspace
  constructor
  · rw [Catalogue.findIn_eq some]
    exact held_bind_error (settles.held_eq answerer course)
  · rw [Catalogue.countIn_eq some]
    exact held_bind_error (settles.held_eq answerer (course.see (.tallied keyspace)))

/-- **Queries stop at failures.** For criteria that ask for something, and a store of which nothing
is known: if a path misfits, looking for entities and counting them report the first misfit, and the
store is not asked anything. Otherwise neither reports a misfit. Both ask for one connection and
then for what the criteria need, in one order; and if a call fails, its error is the outcome as it
is, and nothing more is asked. -/
theorem queries_stop_at_failures (some : criteria.isEmpty = false) (catalogue : Catalogue)
    (keyspace : Keyspace) (sorting : Option (Sorting Json)) (page : Page) (answerer : Answerer σ)
    (state : σ) :
    (criteria.misfit? catalogue.schema = none ↔
      Resolves catalogue.schema (criteria.all.toList ++ criteria.any.toList) ∧
        ∀ near, criteria.near? = .some near →
          ∃ property, catalogue.schema.resolveGeo near.path = .ok property) ∧
    (∀ error, criteria.misfit? catalogue.schema = .some error →
      (catalogue.findIn keyspace criteria sorting page).held answerer (.start state) =
          (.error (.mapping error), .start state) ∧
        (catalogue.countIn keyspace criteria).held answerer (.start state) =
          (.error (.mapping error), (Course.start state).see (.tallied keyspace))) ∧
    (criteria.misfit? catalogue.schema = none →
      Disciplined (fun error => ∃ reason, error = .conversion reason)
        (criteria.searchCalls catalogue.schema)
        ((catalogue.findIn keyspace criteria sorting page).held answerer (.start state)).1
        ((catalogue.findIn keyspace criteria sorting page).held answerer (.start state)).2.turns ∧
      Disciplined (fun _ => False) (criteria.countCalls catalogue.schema)
        ((catalogue.countIn keyspace criteria).held answerer (.start state)).1
        ((catalogue.countIn keyspace criteria).held answerer (.start state)).2.turns) := by
  refine ⟨Criteria.misfit?_eq_none_iff, fun error misfit =>
    held_of_misfit misfit keyspace sorting page answerer (.start state), fun fits => ⟨?_, ?_⟩⟩
  · obtain ⟨asked, turns, follows⟩ :=
      (makes_findIn some fits keyspace sorting page).follows answerer (.start state)
    rw [turns]
    exact follows.disciplined (connection_notMem_searchCalls catalogue.schema criteria)
  · obtain ⟨asked, turns, follows⟩ :=
      (makes_countIn some fits keyspace).follows answerer (.start state)
    rw [turns]
    exact follows.disciplined (connection_notMem_countCalls catalogue.schema criteria)

end Discipline

/-- An empty store that cannot be reached any more when sets are to be intersected. -/
def fading : Answerer Unit := fun request state =>
  if request.kind = .intersect then (.error (.connection (some "connection refused")), state)
  else (.ok (Store.empty.reply request), state)

/-- Towns in Illian, or with a lord that towns do not have. -/
def lordlyCriteria : Criteria :=
  townCriteria.withAny ⟨"lord", [.ofString "mattin"]⟩

theorem queries_stop_at_failures_fading :
    townCriteria.isEmpty = false ∧ lordlyCriteria.isEmpty = false ∧
      townCriteria.misfit? town.schema = none ∧
      lordlyCriteria.misfit? town.schema = some (.unknownProperty "Town" "lord") ∧
      ((town.catalogue.findIn town.schema.keyspace townCriteria none .whole).held fading
          (.start ())).1 = .error (.store (.connection (some "connection refused"))) ∧
      Disciplined (fun error => ∃ reason, error = .conversion reason)
        [.connection, .intersect, .fieldsOf]
        ((town.catalogue.findIn town.schema.keyspace townCriteria none .whole).held fading
          (.start ())).1
        ((town.catalogue.findIn town.schema.keyspace townCriteria none .whole).held fading
          (.start ())).2.turns ∧
      (town.catalogue.findIn town.schema.keyspace lordlyCriteria none .whole).held fading
          (.start ()) = (.error (.mapping (.unknownProperty "Town" "lord")), .start ()) := by
  have fits : townCriteria.misfit? town.schema = none := by decide
  have misfit : lordlyCriteria.misfit? town.schema = some (.unknownProperty "Town" "lord") := by
    decide
  have orderly := (@queries_stop_at_failures Unit townCriteria rfl town.catalogue
    town.schema.keyspace none .whole fading ()).2.2 fits
  have lordly := (@queries_stop_at_failures Unit lordlyCriteria rfl town.catalogue
    town.schema.keyspace none .whole fading ()).2.1 _ misfit
  have turns : ((town.catalogue.findIn town.schema.keyspace townCriteria none .whole).held fading
      (.start ())).2.turns = [⟨.connection, .ok ()⟩,
        ⟨.intersect [Bytes.ofString "towns:land:illian"],
          .error (.connection (some "connection refused"))⟩] := rfl
  exact ⟨rfl, rfl, fits, misfit, (orderly.1.stops [_] _ _ _ turns rfl).2, orderly.1, lordly.1⟩

end SecondaryIndex
