/-
**Which calls a query makes.**

A query asks one call after the other, and what it goes on with depends on the answers. Whatever
they are, its calls can be told beforehand to be of some sort, and so can its value:

* `Querying.Asks` — all calls are allowed ones and the value has a property, closed under sequences
  (`Asks.bind`);
* `Querying.Settles.asks` — a query that settles makes no call;
* `Plan.asks_resolve` — criteria become keys of the keyspace that is asked, without a call.
-/

import SecondaryIndex.Proofs.Query.Settling
import SecondaryIndex.Proofs.Store.Keyspaces

namespace SecondaryIndex

/-! ## Part 1 — calls of queries -/

namespace Querying

variable {α β : Type} {allowed : Request → Prop}

/-- All calls of a query are allowed, and each value that it may end with has the property. -/
def Asks (allowed : Request → Prop) (holds : α → Prop) : Querying α → Prop
  | .done value => holds value
  | .fail _ => True
  | .note _ next => Asks allowed holds next
  | .ask request next => allowed request ∧ ∀ answer, Asks allowed holds (next answer)

namespace Asks

variable {holds : α → Prop} {later : β → Prop} {query : Querying α} {next : α → Querying β}
  {store : Store}

theorem ofExcept (outcome : Except QueryError α) :
    Asks allowed (fun _ => True) (.ofExcept outcome) := by
  cases outcome <;> trivial

/-- Queries follow one another. -/
theorem bind (first : Asks allowed holds query)
    (rest : ∀ value, holds value → Asks allowed later (next value)) :
    Asks allowed later (query.bind next) := by
  induction query with
  | done value => exact rest value first
  | fail error => trivial
  | note seen query ih => exact ih first
  | ask request query ih => exact ⟨first.1, fun answer => ih answer (first.2 answer)⟩

end Asks

/-- A query that settles asks nothing. -/
theorem Settles.asks {query : Querying α} {outcome : Except QueryError α}
    (settles : Settles query outcome) : Asks allowed (fun _ => True) query := by
  induction settles with
  | done value => trivial
  | fail error => trivial
  | report event _ ih => exact ih

end Querying

/-! ## Part 2 — calls of the stages -/

/-- A plan whose keys are of a keyspace. -/
structure Plan.About (keyspace : Keyspace) (plan : Plan) : Prop where
  all : ∀ key ∈ plan.all.keys, keyspace.Owns key
  any : ∀ key ∈ plan.any.keys, keyspace.Owns key
  near : ∀ area, plan.near? = some area → keyspace.Owns area.key

section Plans

variable {keyspace : Keyspace} {schema : Schema} {identify : IndexValue → Bytes}
  {predicates : List Predicate} {allowed : Request → Prop}

theorem owns_of_mem_indexKeys {key : Bytes} (listed : key ∈ indexKeys keyspace predicates) :
    keyspace.Owns key := by
  obtain ⟨predicate, _, named⟩ := List.mem_flatMap.mp listed
  obtain ⟨value, _, rfl⟩ := List.mem_map.mp named
  exact keyspace.owns_indexKey _ _

open Querying

theorem Plan.asks_select :
    Asks allowed (fun _ => True) (Plan.select identify schema predicates) :=
  (Asks.ofExcept _).bind fun _ _ => trivial

theorem Plan.asks_resolveAny :
    Asks allowed (fun group => ∀ key ∈ group.keys, keyspace.Owns key)
      (Plan.resolveAny identify schema keyspace predicates) :=
  Plan.asks_select.bind fun _ _ _ => owns_of_mem_indexKeys

theorem Plan.asks_resolveAll :
    Asks allowed (fun group => ∀ key ∈ group.keys, keyspace.Owns key)
      (Plan.resolveAll identify schema keyspace predicates) := by
  match predicates with
  | [predicate] => exact Plan.asks_select.bind fun _ _ _ => owns_of_mem_indexKeys
  | [] => exact fun _ => owns_of_mem_indexKeys
  | first :: second :: rest =>
    exact (Asks.ofExcept _).bind fun _ _ _ => owns_of_mem_indexKeys

theorem Plan.asks_resolveNear (near? : Option Near) :
    Asks allowed (fun area? => ∀ area, area? = some area → keyspace.Owns area.key)
      (Plan.resolveNear schema keyspace near?) := by
  cases near? with
  | none => exact nofun
  | some near =>
    refine (Asks.ofExcept _).bind fun _ _ => ?_
    rintro area ⟨rfl⟩
    exact keyspace.owns_geoKey near.path

/-- Criteria become keys of the keyspace that is asked. -/
theorem Plan.asks_resolve (criteria : Criteria) :
    Asks allowed (Plan.About keyspace) (Plan.resolve identify schema keyspace criteria) :=
  Plan.asks_resolveAll.bind fun _ all =>
    Plan.asks_resolveAny.bind fun _ any =>
      (Plan.asks_resolveNear criteria.near?).bind fun _ near => ⟨all, any, near⟩

end Plans

end SecondaryIndex
