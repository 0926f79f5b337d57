/-
**Queries that are held with a store of which nothing is known.**

Such a store may answer each call as it likes, or fail, and what it does may depend on all that was
asked before:

* `Querying.held` — the outcome of a query and its `Course`: the calls it made, how each of them
  went, and what was measured; with one equation for each step (`held_bind_ok`, `Settles.held_eq`);
* `Querying.Makes` — the kinds of calls that a query makes whatever the answers are, closed under
  sequences;
* `Querying.Follows` — calls are made in an order until one fails, and then its error is the
  outcome;
* `Makes.follows` — a query that makes calls of some kinds follows them with every store;
* `Catalogue.findIn_eq`, `Catalogue.countIn_eq` — queries for something are planned first.
-/

import SecondaryIndex.Proofs.Query.Evaluation

namespace SecondaryIndex

/-! ## Part 1 — courses -/

/-- A store of which nothing is known: a call may succeed with any answer, or fail, and leaves some
other state. -/
abbrev Answerer (σ : Type) :=
  (request : Request) → σ → Except StoreError request.Answer × σ

/-- A call, and how it went. -/
structure Turn where
  request : Request
  outcome : Except StoreError request.Answer

/-- The kind of the call. -/
def Turn.kind (turn : Turn) : Request.Kind :=
  turn.request.kind

/-- What became of a query so far. -/
structure Course (σ : Type) where
  /-- The state of the store. -/
  state : σ
  /-- The calls in their order, a failed one included. -/
  turns : List Turn
  metrics : Metrics

namespace Course

variable {σ : Type}

/-- Nothing was asked yet. -/
def start (state : σ) : Course σ :=
  ⟨state, [], .empty⟩

/-- A call and its answer. -/
def answer (answerer : Answerer σ) (request : Request) (course : Course σ) :
    Except QueryError request.Answer × Course σ :=
  let (outcome, state) := answerer request course.state
  (outcome.mapError .store,
    { course with state := state, turns := course.turns ++ [⟨request, outcome⟩] })

/-- An observation. -/
def see (seen : Observation) (course : Course σ) : Course σ :=
  { course with metrics := course.metrics.observe seen }

end Course

namespace Querying

variable {α β σ : Type} {answerer : Answerer σ} {course later : Course σ} {query : Querying α}
  {next : α → Querying β} {outcome : Except QueryError α}

/-- The outcome of a query, and its course. -/
def held (query : Querying α) (answerer : Answerer σ) (course : Course σ) :
    Except QueryError α × Course σ :=
  query.run (Course.answer answerer) Course.see course

theorem held_ask_ok {request : Request} {reply : request.Answer} {state : σ}
    (answered : answerer request course.state = (.ok reply, state))
    (next : request.Answer → Querying α) :
    Querying.held (.ask request next) answerer course =
      (next reply).held answerer
        { course with state := state, turns := course.turns ++ [⟨request, .ok reply⟩] } := by
  rw [Querying.held, Dialogue.run, Course.answer, answered]
  rfl

theorem held_ask_error {request : Request} {error : StoreError} {state : σ}
    (failed : answerer request course.state = (.error error, state))
    (next : request.Answer → Querying α) :
    Querying.held (.ask request next) answerer course =
      (.error (.store error),
        { course with state := state, turns := course.turns ++ [⟨request, .error error⟩] }) := by
  rw [Querying.held, Dialogue.run, Course.answer, failed]
  rfl

theorem held_bind_ok {value : α} (first : query.held answerer course = (.ok value, later)) :
    Querying.held (query.bind next) answerer course = (next value).held answerer later :=
  Dialogue.run_bind_ok first

theorem held_bind_error {error : QueryError}
    (first : query.held answerer course = (.error error, later)) :
    Querying.held (query.bind next) answerer course = (.error error, later) :=
  Dialogue.run_bind_error first

/-- A query that settles leaves its course as it is. -/
theorem Settles.held_eq (settles : Settles query outcome) (answerer : Answerer σ)
    (course : Course σ) : query.held answerer course = (outcome, course) :=
  settles.run _ _ (fun _ _ => rfl) course

end Querying

/-! ## Part 2 — calls in an order -/

namespace Querying

variable {α β σ : Type} {fails : QueryError → Prop} {kinds more : List Request.Kind}
  {query : Querying α} {next : α → Querying β} {outcome : Except QueryError α} {turns : List Turn}

/-- **The query makes calls of these kinds, in this order**, whatever the answers are, and ends only
then; what it may fail with itself has the property. -/
def Makes (fails : QueryError → Prop) : List Request.Kind → Querying α → Prop
  | kinds, .done _ => kinds = []
  | kinds, .fail error => kinds = [] ∧ fails error
  | kinds, .note _ next => Makes fails kinds next
  | kinds, .ask request next =>
    ∃ rest, kinds = request.kind :: rest ∧ ∀ answer, Makes fails rest (next answer)

namespace Makes

/-- A query that does not fail by itself, and one after it. -/
theorem bind (first : Makes (fun _ => False) kinds query)
    (rest : ∀ value, Makes fails more (next value)) :
    Makes fails (kinds ++ more) (query.bind next) := by
  induction query generalizing kinds with
  | done value =>
    cases (first : kinds = [])
    exact rest value
  | fail error => exact first.2.elim
  | note seen query ih => exact ih first
  | ask request query ih =>
    obtain ⟨left, rfl, after⟩ := first
    exact ⟨left ++ more, rfl, fun answer => ih answer (after answer)⟩

/-- A query, and one after it that makes no call. -/
theorem bind_nil (first : Makes fails kinds query) (rest : ∀ value, Makes fails [] (next value)) :
    Makes fails kinds (query.bind next) := by
  induction query generalizing kinds with
  | done value =>
    cases (first : kinds = [])
    exact rest value
  | fail error => exact first
  | note seen query ih => exact ih first
  | ask request query ih =>
    obtain ⟨left, rfl, after⟩ := first
    exact ⟨left, rfl, fun answer => ih answer (after answer)⟩

theorem call (request : Request) : Makes fails [request.kind] (call request) :=
  ⟨[], rfl, fun _ => rfl⟩

end Makes

/-- A query that settles makes no call. -/
theorem Settles.makes (settles : Settles query outcome)
    (own : ∀ error, outcome = .error error → fails error) : Makes fails [] query := by
  induction settles with
  | done value => rfl
  | fail error => exact ⟨rfl, own error rfl⟩
  | report event _ ih => exact ih own

/-- Behind a query that settles, the calls are those of what comes next. -/
theorem Settles.makes_bind {value : α} (settles : Settles query (.ok value))
    (rest : Makes fails kinds (next value)) : Makes fails kinds (query.bind next) := by
  generalize same : Except.ok value = outcome at settles
  induction settles with
  | done value =>
    cases same
    exact rest
  | fail error => cases same
  | report event _ ih => exact ih same

/-- **Calls of these kinds are made one after the other** until there is no more, or one of them
fails; then its error is the outcome. -/
inductive Follows (fails : QueryError → Prop) :
    List Request.Kind → List Turn → Except QueryError α → Prop
  | done (value : α) : Follows fails [] [] (.ok value)
  | failed {error : QueryError} (own : fails error) : Follows fails [] [] (.error error)
  | refused (request : Request) (error : StoreError) (kinds : List Request.Kind) :
    Follows fails (request.kind :: kinds) [⟨request, .error error⟩] (.error (.store error))
  | answered (request : Request) (reply : request.Answer) {kinds : List Request.Kind}
      {turns : List Turn} {outcome : Except QueryError α}
      (rest : Follows fails kinds turns outcome) :
    Follows fails (request.kind :: kinds) (⟨request, .ok reply⟩ :: turns) outcome

/-- **What a query makes, it follows with every store.** -/
theorem Makes.follows (makes : Makes fails kinds query) (answerer : Answerer σ)
    (course : Course σ) :
    ∃ asked, (query.held answerer course).2.turns = course.turns ++ asked ∧
      Follows fails kinds asked (query.held answerer course).1 := by
  induction query generalizing kinds course with
  | done value =>
    cases (makes : kinds = [])
    exact ⟨[], (List.append_nil _).symm, .done value⟩
  | fail error =>
    obtain ⟨rfl, own⟩ := makes
    exact ⟨[], (List.append_nil _).symm, .failed own⟩
  | note seen query ih => exact ih makes (course.see seen)
  | ask request query ih =>
    obtain ⟨left, rfl, after⟩ := makes
    cases answered : answerer request course.state with
    | mk outcome state =>
      cases outcome with
      | error error =>
        rw [held_ask_error answered]
        exact ⟨_, rfl, .refused request error left⟩
      | ok reply =>
        rw [held_ask_ok answered]
        obtain ⟨asked, turns, follows⟩ := ih reply (after reply)
          { course with state := state, turns := course.turns ++ [⟨request, .ok reply⟩] }
        exact ⟨⟨request, .ok reply⟩ :: asked, by rw [turns, List.append_assoc]; rfl,
          .answered request reply follows⟩

namespace Follows

/-- The calls are the first ones of those in the order. -/
theorem kinds_prefix (follows : Follows fails kinds turns outcome) :
    turns.map Turn.kind <+: kinds := by
  induction follows with
  | done value => exact List.nil_prefix
  | failed own => exact List.nil_prefix
  | refused request error kinds => exact ⟨kinds, rfl⟩
  | answered request reply _ ih => exact (List.prefix_cons_inj _).mpr ih

/-- **A call that fails is the last one**, and its error is the outcome. -/
theorem stops (follows : Follows fails kinds turns outcome) {before after : List Turn} {turn : Turn}
    {error : StoreError} (made : turns = before ++ turn :: after)
    (failed : turn.outcome = .error error) :
    after = [] ∧ outcome = .error (.store error) := by
  induction follows generalizing before with
  | done value => cases List.append_ne_nil_of_right_ne_nil before (List.cons_ne_nil _ _) made.symm
  | failed own => cases List.append_ne_nil_of_right_ne_nil before (List.cons_ne_nil _ _) made.symm
  | refused request error kinds =>
    cases before with
    | nil =>
      cases made
      cases failed
      exact ⟨rfl, rfl⟩
    | cons first before =>
      have none := (List.cons.inj made).2
      cases List.append_ne_nil_of_right_ne_nil before (List.cons_ne_nil _ _) none.symm
  | answered request reply _ ih =>
    cases before with
    | nil =>
      cases made
      cases failed
    | cons first before => exact ih (List.cons.inj made).2

/-- **Unless a call fails, all are made**, and the query fails only by itself. -/
theorem complete (follows : Follows fails kinds turns outcome)
    (answered : ∀ turn ∈ turns, ∃ reply, turn.outcome = .ok reply) :
    turns.map Turn.kind = kinds ∧ ∀ error, outcome = .error error → fails error := by
  induction follows with
  | done value => exact ⟨rfl, nofun⟩
  | failed own =>
    refine ⟨rfl, fun error same => ?_⟩
    cases same
    exact own
  | refused request error kinds =>
    obtain ⟨reply, same⟩ := answered _ List.mem_cons_self
    cases same
  | answered request reply _ ih =>
    rw [List.forall_mem_cons] at answered
    obtain ⟨all, own⟩ := ih answered.2
    exact ⟨congrArg (request.kind :: ·) all, own⟩

/-- An error is that of a call, or the query's own. -/
theorem error_cases (follows : Follows fails kinds turns outcome) {error : QueryError}
    (failed : outcome = .error error) : fails error ∨ ∃ reason, error = .store reason := by
  induction follows with
  | done value => cases failed
  | failed own =>
    cases failed
    exact .inl own
  | refused request reason kinds =>
    cases failed
    exact .inr ⟨reason, rfl⟩
  | answered request reply _ ih => exact ih failed

end Follows

end Querying

/-! ## Part 3 — queries that are planned -/

open Querying in
/-- **A query for entities** is planned, unless nothing is asked for, and at its end it tells how
many ids had no fields. -/
theorem Catalogue.findIn_eq {criteria : Criteria} (some : criteria.isEmpty = false)
    (catalogue : Catalogue) (keyspace : Keyspace) (sorting : Option (Sorting Json)) (page : Page) :
    catalogue.findIn keyspace criteria sorting page =
      (Plan.resolve catalogue.identify catalogue.schema keyspace criteria).bind fun plan =>
        (catalogue.findPlanned keyspace plan page).bind fun found =>
          .note (.searched keyspace found.2) (.done (arranged sorting found.1)) := by
  rw [findIn, some, if_neg Bool.false_ne_true]
  rfl

/-- Both groups of a plan, counted one after the other. -/
def Catalogue.countPlanned (keyspace : Keyspace) (plan : Plan) : Querying Nat :=
  (call .connection).bind fun _ =>
    (countGroup keyspace plan.all (common plan.all)).bind fun all =>
      (countGroup keyspace plan.any (joint plan.any)).bind fun any =>
        .note (.event (.counted all any)) (.done (all + any))

/-- **A query for the number of entities** is planned, unless nothing is asked for. -/
theorem Catalogue.countIn_eq {criteria : Criteria} (some : criteria.isEmpty = false)
    (catalogue : Catalogue) (keyspace : Keyspace) :
    catalogue.countIn keyspace criteria = .note (.tallied keyspace)
      ((Plan.resolve catalogue.identify catalogue.schema keyspace criteria).bind fun plan =>
        countPlanned keyspace plan) := by
  rw [countIn, some, if_neg Bool.false_ne_true]
  rfl

end SecondaryIndex
