/-
**Computations that ask for answers on their way.**

A `Dialogue` is a tree: it ends with a value or an error, lets something be observed, or asks a
request and goes on with the answer. What the answers are is not its business:

* `run` lets an answerer with a state reply, so the same dialogue can be held with a store, with one
  that fails, with a script, or with a store that others change between two requests;
* `run_bind` says that a sequence of two dialogues is held one after the other, `run_bind_ok` and
  `run_bind_error` what becomes of it when the outcome of the first one is known.
-/

namespace SecondaryIndex

/-- A computation that asks requests. `Answer` says what each request is answered with, `ν` is what
can be observed, `ε` how it can fail. -/
inductive Dialogue {ρ : Type} (Answer : ρ → Type) (ν ε α : Type) where
  | done (value : α)
  | fail (error : ε)
  | note (seen : ν) (next : Dialogue Answer ν ε α)
  | ask (request : ρ) (next : Answer request → Dialogue Answer ν ε α)

namespace Dialogue

variable {ρ : Type} {Answer : ρ → Type} {ν ε α β σ : Type}

/-- Goes on with the value of a dialogue. -/
def bind : Dialogue Answer ν ε α → (α → Dialogue Answer ν ε β) → Dialogue Answer ν ε β
  | .done value, next => next value
  | .fail error, _ => .fail error
  | .note seen rest, next => .note seen (rest.bind next)
  | .ask request rest, next => .ask request fun answer => (rest answer).bind next

instance : Monad (Dialogue Answer ν ε) where
  pure := .done
  bind := bind

@[simp] theorem pure_eq (value : α) :
    (pure value : Dialogue Answer ν ε α) = .done value := rfl

@[simp] theorem bind_eq (first : Dialogue Answer ν ε α) (next : α → Dialogue Answer ν ε β) :
    (first >>= next) = first.bind next := rfl

instance : LawfulMonad (Dialogue Answer ν ε) :=
  LawfulMonad.mk' _
    (fun dialogue => by
      show dialogue.bind .done = dialogue
      induction dialogue with
      | done value => rfl
      | fail error => rfl
      | note seen rest ih => exact congrArg (note seen) ih
      | ask request rest ih => exact congrArg (ask request) (funext ih))
    (fun _ _ => rfl)
    (fun dialogue first second => by
      show (dialogue.bind first).bind second = dialogue.bind fun value => (first value).bind second
      induction dialogue with
      | done value => rfl
      | fail error => rfl
      | note seen rest ih => exact congrArg (note seen) ih
      | ask request rest ih => exact congrArg (ask request) (funext ih))

/-- Lets something be observed. -/
def observe (seen : ν) : Dialogue Answer ν ε Unit :=
  .note seen (.done ())

/-- Asks a single request. -/
def request (request : ρ) : Dialogue Answer ν ε (Answer request) :=
  .ask request .done

/-- The value of an outcome, or its error. -/
def ofExcept : Except ε α → Dialogue Answer ν ε α
  | .ok value => .done value
  | .error error => .fail error

/-- Holds a dialogue with an answerer. -/
def run (answer : (request : ρ) → σ → Except ε (Answer request) × σ) (see : ν → σ → σ) :
    Dialogue Answer ν ε α → σ → Except ε α × σ
  | .done value, state => (.ok value, state)
  | .fail error, state => (.error error, state)
  | .note seen next, state => next.run answer see (see seen state)
  | .ask request next, state =>
    match answer request state with
    | (.ok reply, state) => (next reply).run answer see state
    | (.error error, state) => (.error error, state)

/-- Two dialogues in sequence are held one after the other. -/
theorem run_bind (answer : (request : ρ) → σ → Except ε (Answer request) × σ) (see : ν → σ → σ)
    (first : Dialogue Answer ν ε α) (next : α → Dialogue Answer ν ε β) (state : σ) :
    (first.bind next).run answer see state =
      match first.run answer see state with
      | (.ok value, state) => (next value).run answer see state
      | (.error error, state) => (.error error, state) := by
  induction first generalizing state with
  | done value => rfl
  | fail error => rfl
  | note seen rest ih => exact ih (see seen state)
  | ask request rest ih =>
    simp only [bind, run]
    split
    · rename_i reply after _
      exact ih reply after
    · rfl

variable {answer : (request : ρ) → σ → Except ε (Answer request) × σ} {see : ν → σ → σ}
  {first : Dialogue Answer ν ε α} {next : α → Dialogue Answer ν ε β} {state after : σ}

/-- After a dialogue with a value the next one goes on with it. -/
theorem run_bind_ok {value : α} (held : first.run answer see state = (.ok value, after)) :
    (first.bind next).run answer see state = (next value).run answer see after := by
  rw [run_bind, held]

/-- After a dialogue that fails nothing goes on. -/
theorem run_bind_error {error : ε} (held : first.run answer see state = (.error error, after)) :
    (first.bind next).run answer see state = (.error error, after) := by
  rw [run_bind, held]

/-- A dialogue that goes on with a computed value maps its outcome. -/
theorem run_bind_map {outcome : Except ε α} {make : α → β}
    (held : first.run answer see state = (outcome, after))
    (going : ∀ value, (next value).run answer see after = (.ok (make value), after)) :
    (first.bind next).run answer see state = (outcome.map make, after) := by
  cases outcome with
  | ok value => exact (run_bind_ok held).trans (going value)
  | error error => exact run_bind_error held

end Dialogue

end SecondaryIndex
