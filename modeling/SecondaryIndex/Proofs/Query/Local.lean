/-
**Queries that are held with a store in the same process.**

Such a store answers at once and never fails, so a query is a function of the store alone:

* `Querying.eval` — the outcome of a query and the store that it leaves;
* `eval_bind_ok`, `eval_call` and their like — one equation for each step a query is made of;
* `Session.hold_eval` — a session with such a store, in which no call is made to fail, holds a query
  as `eval` says, and stays such a session.
-/

import SecondaryIndex.Proofs.Query.Settling
import SecondaryIndex.Session

namespace SecondaryIndex

/-! ## Part 1 — evaluating a query -/

namespace Querying

variable {α β : Type}

/-- The outcome of a query that a store answers, and the store after it. -/
def eval (query : Querying α) (store : Store) : Except QueryError α × Store :=
  query.run (fun request store => (.ok (store.reply request), store.after request))
    (fun _ store => store) store

variable {store after : Store} {value : α}

@[simp] theorem eval_call (request : Request) (store : Store) :
    eval (call request) store = (.ok (store.reply request), store.after request) := rfl

@[simp] theorem eval_ofExcept (outcome : Except QueryError α) (store : Store) :
    eval (.ofExcept outcome) store = (outcome, store) := by
  cases outcome <;> rfl

/-- After a query with a value the next one goes on with it. -/
theorem eval_bind_ok {query : Querying α} {next : α → Querying β}
    (first : eval query store = (.ok value, after)) :
    eval (query.bind next) store = eval (next value) after :=
  Dialogue.run_bind_ok first

/-- After a query that fails nothing goes on. -/
theorem eval_bind_error {query : Querying α} {next : α → Querying β} {error : QueryError}
    (first : eval query store = (.error error, after)) :
    eval (query.bind next) store = (.error error, after) :=
  Dialogue.run_bind_error first

/-- A query that settles has no part in the store. -/
theorem Settles.eval_eq {query : Querying α} {outcome : Except QueryError α}
    (settles : Settles query outcome) (store : Store) : eval query store = (outcome, store) :=
  settles.run _ _ (fun _ _ => rfl) store

/-- A query that goes on with a computed value maps its outcome. -/
theorem eval_bind_map {query : Querying α} {rest : α → Querying β}
    {outcome : Except QueryError α} {make : α → β} (first : eval query store = (outcome, store))
    (going : ∀ value, eval (rest value) store = (.ok (make value), store)) :
    eval (query.bind rest) store = (outcome.map make, store) :=
  Dialogue.run_bind_map first going

end Querying

/-! ## Part 2 — sessions -/

namespace Session

variable {α : Type} {session : Session} {store : Store}

/-- The session has a store in the same process, and no call is made to fail. -/
structure Keeps (session : Session) (store : Store) : Prop where
  backend_eq : session.backend = .inProcess store
  refusal_eq : session.refusal.kinds = []

theorem keeps_inProcess (label : String) : (inProcess label).Keeps .empty :=
  ⟨rfl, rfl⟩

/-- A run of a query in the middle of a session. -/
theorem run_eval (query : Querying α) (progress : Progress) (keeps : progress.session.Keeps store) :
    (query.run answer see progress).1 = (query.eval store).1 ∧
      (query.run answer see progress).2.session.Keeps (query.eval store).2 := by
  induction query generalizing progress store with
  | done value => exact ⟨rfl, keeps⟩
  | fail error => exact ⟨rfl, keeps⟩
  | note seen next ih => exact ih (see seen progress) ⟨keeps.backend_eq, keeps.refusal_eq⟩
  | ask request next ih =>
    have answered : ∃ after, answer request progress = (.ok (store.reply request), after) ∧
        after.session.Keeps (store.after request) := by
      rw [answer]
      simp only [keeps.refusal_eq, List.not_mem_nil, if_false, keeps.backend_eq]
      exact ⟨_, rfl, rfl, keeps.refusal_eq⟩
    obtain ⟨after, outcome, keepsAfter⟩ := answered
    rw [Dialogue.run, outcome]
    exact ih (store.reply request) after keepsAfter

/-- **A session with a store in the same process holds a query as the query evaluates.** -/
theorem hold_eval (keeps : session.Keeps store) (query : Querying α) :
    (session.hold query).1 = (query.eval store).1 ∧
      (session.hold query).2.session.Keeps (query.eval store).2 :=
  run_eval query ⟨session, ⟨[], []⟩⟩ keeps

end Session

end SecondaryIndex
