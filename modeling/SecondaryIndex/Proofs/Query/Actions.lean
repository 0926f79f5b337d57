/-
**Inserting and deleting entities of one type.**

An `Action` is a call that changes what is stored of a type. Made on a session with a store in the
same process, actions come to updates of that store:

* `Session.keeps_performAll` — after any actions the store is the one after their updates, where an
  entity that cannot be converted makes no update;
* `current?` — the entity that an id stands for: the last one inserted under it, unless it was
  deleted since;
* `standing_updates` — the writes that stand are those of the current entities.
-/

import SecondaryIndex.Proofs.Outcomes
import SecondaryIndex.Proofs.Query.Local
import SecondaryIndex.Proofs.Store.History

namespace SecondaryIndex

/-- The catalogue of a type whose ids are the bytes of their values. -/
def EntityType.catalogue (type : EntityType) : Catalogue :=
  ⟨type, IndexValue.bytes⟩

/-- A call that changes what is stored of a type. -/
inductive Action where
  | insert (entity : Entity)
  | delete (id : IndexValue)

namespace Action

/-- Makes the call. -/
def perform (type : EntityType) : Action → Querying Unit
  | .insert entity => type.catalogue.insert entity
  | .delete id => do
    let _ ← type.catalogue.delete id
    return ()

/-- The entity that is inserted. -/
def entity? : Action → Option Entity
  | .insert entity => some entity
  | .delete _ => none

/-- The update of a store that the call comes to. An entity that cannot be converted makes none. -/
def update? (schema : Schema) : Action → Option Update
  | .insert entity =>
    match entity.write schema with
    | .ok write => some (.put write)
    | .error _ => none
  | .delete id => some (.delete schema.keyspace id.bytes schema.geoPaths)

end Action

/-- The updates of a store that some actions come to. -/
def updates (schema : Schema) (actions : List Action) : History :=
  actions.filterMap (Action.update? schema)

/-- The last action that had an effect on an id. -/
def lastAction? (schema : Schema) (actions : List Action) (id : Bytes) : Option Action :=
  (actions.filter fun action => (action.update? schema).any (·.id = id)).getLast?

/-- The entity that an id stands for. -/
def current? (schema : Schema) (actions : List Action) (id : Bytes) : Option Entity :=
  (lastAction? schema actions id).bind Action.entity?

variable {type : EntityType} {schema : Schema} {actions : List Action} {action : Action}
  {entity : Entity} {id : Bytes} {store : Store} {write : Write}

/-! ## Part 1 — actions in a session -/

/-- An insertion that has an effect writes the entity. -/
theorem Action.of_update?_insert {update : Update}
    (found : update? schema (.insert entity) = some update) :
    ∃ write, entity.write schema = .ok write ∧ update = .put write := by
  rw [update?] at found
  cases written : entity.write schema with
  | error error =>
    rw [written] at found
    cases found
  | ok write =>
    rw [written] at found
    cases found
    exact ⟨write, rfl, rfl⟩

theorem updates_concat (schema : Schema) (actions : List Action) (action : Action) :
    updates schema (actions ++ [action]) =
      updates schema actions ++ (action.update? schema).toList := by
  rw [updates, List.filterMap_append]
  cases found : action.update? schema with
  | none => rw [List.filterMap_cons_none found]; rfl
  | some update => rw [List.filterMap_cons_some found]; rfl

/-- What the write of an entity is made of. -/
theorem Entity.of_write (written : entity.write schema = .ok write) :
    ∃ value positions, entity.form = .ok value ∧ value.kind = .map ∧
      positionEntries schema value = .ok positions ∧
      write = ⟨⟨entity.id.bytes, schema.keyspace, flatten value⟩, indexEntries schema value,
        positions⟩ := by
  unfold Entity.write at written
  split at written
  · cases written
  · rename_i value formed
    split at written
    · rename_i object
      cases placed : positionEntries schema value with
      | error error =>
        rw [placed] at written
        cases written
      | ok positions =>
        rw [placed] at written
        cases written
        exact ⟨value, positions, formed, object, placed, rfl⟩
    · cases written

/-- The record of an entity has its id and the keyspace of its type. -/
theorem Entity.record_write (written : entity.write schema = .ok write) :
    write.id = entity.id.bytes ∧ write.keyspace = schema.keyspace ∧
      ∃ value, write.indexes = indexEntries schema value := by
  obtain ⟨value, positions, -, -, -, rfl⟩ := Entity.of_write written
  exact ⟨rfl, rfl, value, rfl⟩

/-- **An action leaves the store after its update**, if it comes to one. -/
theorem eval_perform (type : EntityType) (action : Action) (store : Store) :
    (Querying.eval (action.perform type) store).2 =
      (action.update? type.schema).elim store fun update => update.apply store := by
  cases action with
  | insert entity =>
    show (Querying.eval (type.catalogue.insert entity) store).2 = _
    rw [Catalogue.insert, Action.update?]
    cases written : entity.write type.schema with
    | error error =>
      rw [show entity.write type.catalogue.schema = .error error from written]
      rfl
    | ok write =>
      rw [show entity.write type.catalogue.schema = .ok write from written]
      rfl
  | delete id => rfl

namespace Session

/-- The session after an action. -/
def perform (type : EntityType) (session : Session) (action : Action) : Session :=
  (session.hold (action.perform type)).2.session

/-- The session after some actions. -/
def performAll (type : EntityType) (session : Session) (actions : List Action) : Session :=
  actions.foldl (perform type) session

/-- **After any actions the store is the one after their updates.** -/
theorem keeps_performAll (type : EntityType) (label : String) (actions : List Action) :
    ((inProcess label).performAll type actions).Keeps (updates type.schema actions).store := by
  induction actions using List.reverseRecOn with
  | nil => exact keeps_inProcess label
  | append_singleton actions action ih =>
    have held := (hold_eval ih (action.perform type)).2
    rw [eval_perform] at held
    rw [performAll, List.foldl_append, updates_concat]
    cases found : action.update? type.schema with
    | none =>
      rw [found] at held
      rw [Option.toList_none, List.append_nil]
      exact held
    | some update =>
      rw [found] at held
      rw [Option.toList_some, History.store_concat]
      exact held

end Session

/-! ## Part 2 — current entities -/

/-- A further action settles its own id, if it has an effect. -/
theorem current?_concat (actions : List Action) (action : Action) (id : Bytes) :
    current? schema (actions ++ [action]) id =
      if (action.update? schema).any (·.id = id) then action.entity?
      else current? schema actions id := by
  rw [current?, lastAction?, getLast?_filter_concat]
  split <;> rfl

/-- **The writes that stand are those of the current entities.** -/
theorem standing_updates (schema : Schema) (actions : List Action) (id : Bytes) :
    (updates schema actions).standing id =
      (current? schema actions id).bind fun entity => (entity.write schema).toOption := by
  induction actions using List.reverseRecOn with
  | nil => rfl
  | append_singleton actions action ih =>
    rw [current?_concat, updates_concat]
    cases found : action.update? schema with
    | none =>
      rw [Option.toList_none, List.append_nil, Option.any_none, if_neg Bool.false_ne_true]
      exact ih
    | some update =>
      rw [Option.toList_some, History.standing_concat]
      by_cases own : update.id = id
      · rw [if_pos own, Option.any_some, if_pos (decide_eq_true own)]
        cases action with
        | insert entity =>
          obtain ⟨write, written, rfl⟩ := Action.of_update?_insert found
          rw [Action.entity?, Option.bind_some, written]
          rfl
        | delete id =>
          cases found
          rfl
      · rw [if_neg own, Option.any_some, if_neg (by simpa using own)]
        exact ih

/-- A current entity was inserted under its id, and it could be converted. -/
theorem of_current? (current : current? schema actions id = some entity) :
    .insert entity ∈ actions ∧ entity.id.bytes = id ∧ ∃ write, entity.write schema = .ok write := by
  obtain ⟨action, last, inserted⟩ := Option.bind_eq_some_iff.mp current
  have listed := List.mem_filter.mp (List.mem_of_getLast? last)
  cases action with
  | insert held =>
    cases inserted
    obtain ⟨update, found, own⟩ := (Option.any_eq_true _ _).mp listed.2
    obtain ⟨write, written, rfl⟩ := Action.of_update?_insert found
    refine ⟨listed.1, ?_, write, written⟩
    rw [← (Entity.record_write written).1]
    exact of_decide_eq_true own
  | delete id => cases inserted

end SecondaryIndex
