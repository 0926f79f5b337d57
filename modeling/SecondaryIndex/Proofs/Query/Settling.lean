/-
**Queries that come to an outcome without a call.**

What a query makes of its criteria, and of what it was answered, is its own business: no store is
asked, so it ends alike whoever would answer.

* `Querying.Settles` — a query comes to an outcome without a call, and only events are seen on the
  way; closed under sequences (`Settles.bind`), and it ends so in every run (`Settles.run`);
* `Catalogue.readAll` — the entities of some records, or the first failure among them;
* `Catalogue.settles_mapM_load`, `Catalogue.settles_loadAll` — records, and what was fetched of some
  ids, are read so.
-/

import SecondaryIndex.Proofs.Outcomes
import SecondaryIndex.Query.Catalogue

namespace SecondaryIndex

/-! ## Part 1 — queries that ask nothing -/

/-- A value, unless there is an error. -/
def valueUnless {ε α : Type} (error? : Option ε) (value : α) : Except ε α :=
  match error? with
  | some error => .error error
  | none => .ok value

theorem mapError_valueUnless {ε δ α : Type} (error? : Option ε) (value : α) (wrap : ε → δ) :
    (valueUnless error? value).mapError wrap = valueUnless (error?.map wrap) value := by
  cases error? <;> rfl

/-- **The query comes to the outcome without a call**; on its way only events are seen. -/
inductive Querying.Settles {α : Type} : Querying α → Except QueryError α → Prop
  | done (value : α) : Settles (.done value) (.ok value)
  | fail (error : QueryError) : Settles (.fail error) (.error error)
  | report (event : Event) {next : Querying α} {outcome : Except QueryError α}
      (rest : Settles next outcome) : Settles (.note (.event event) next) outcome

namespace Querying.Settles

variable {α β σ : Type} {query : Querying α} {outcome : Except QueryError α}

theorem ofExcept (outcome : Except QueryError α) : Settles (.ofExcept outcome) outcome := by
  cases outcome with
  | ok value => exact .done value
  | error error => exact .fail error

/-- Behind a value, a query goes on with it. -/
theorem bind_value {next : α → Querying β} {value : α} {later : Except QueryError β}
    (first : Settles query (.ok value)) (rest : Settles (next value) later) :
    Settles (query.bind next) later := by
  generalize same : Except.ok value = outcome at first
  induction first with
  | done value =>
    cases same
    exact rest
  | fail error => cases same
  | report event _ ih => exact .report event (ih same)

/-- Behind an error, nothing goes on. -/
theorem bind_error {next : α → Querying β} {error : QueryError}
    (first : Settles query (.error error)) : Settles (query.bind next) (.error error) := by
  generalize same : Except.error error = outcome at first
  induction first with
  | done value => cases same
  | fail error =>
    cases same
    exact .fail error
  | report event _ ih => exact .report event (ih same)

/-- One query after the other, if none of those that may come next makes a call. -/
theorem bind {next : α → Querying β} {later : α → Except QueryError β}
    (first : Settles query outcome) (rest : ∀ value, Settles (next value) (later value)) :
    Settles (query.bind next) (outcome.bind later) := by
  cases outcome with
  | ok value => exact first.bind_value (rest value)
  | error error => exact first.bind_error

/-- A query that goes on with a computed value maps its outcome. -/
theorem map {next : α → Querying β} {make : α → β} (first : Settles query outcome)
    (rest : ∀ value, Settles (next value) (.ok (make value))) :
    Settles (query.bind next) (outcome.map make) := by
  cases outcome with
  | ok value => exact first.bind_value (rest value)
  | error error => exact first.bind_error

/-- Queries follow one another, and the first error counts. -/
theorem bind_valueUnless {next : α → Querying β} {first? second? : Option QueryError} {value : α}
    {made : β} (first : Settles query (valueUnless first? value))
    (rest : Settles (next value) (valueUnless second? made)) :
    Settles (query.bind next) (valueUnless (first?.or second?) made) := by
  cases first? with
  | some error => exact first.bind_error
  | none => exact first.bind_value rest

/-- A query that does not fail leaves the first error as it is. -/
theorem bind_ok {next : α → Querying β} {error? : Option QueryError} {value : α} {made : β}
    (first : Settles query (valueUnless error? value)) (rest : Settles (next value) (.ok made)) :
    Settles (query.bind next) (valueUnless error? made) := by
  cases error? with
  | some error => exact first.bind_error
  | none => exact first.bind_value rest

/-- Whoever would answer is not asked, and stays as he is. -/
theorem run (settles : Settles query outcome)
    (answer : (request : Request) → σ → Except QueryError request.Answer × σ)
    (see : Observation → σ → σ) (quiet : ∀ event state, see (.event event) state = state)
    (state : σ) : Dialogue.run answer see query state = (outcome, state) := by
  induction settles with
  | done value => rfl
  | fail error => rfl
  | report event _ ih =>
    rw [Dialogue.run, quiet]
    exact ih

end Querying.Settles

/-! ## Part 2 — reading records -/

/-- The entities of some records, or the first failure among them. -/
def Catalogue.readAll (catalogue : Catalogue) (records : List Record) :
    Except QueryError (List Json) :=
  (records.mapM catalogue.type.read).mapError .conversion

section Reading

variable {catalogue : Catalogue} {record : Record} {records : List Record} {value : Json}
  {error : ConversionError}

/-- Records are read one after the other. -/
theorem readAll_cons (catalogue : Catalogue) (record : Record) (records : List Record) :
    catalogue.readAll (record :: records) =
      ((catalogue.type.read record).mapError .conversion).bind fun value =>
        (catalogue.readAll records).map (value :: ·) := by
  rw [Catalogue.readAll, Catalogue.readAll, List.mapM_cons]
  cases catalogue.type.read record with
  | error error => rfl
  | ok value => cases records.mapM catalogue.type.read <;> rfl

theorem readAll_cons_ok (read : catalogue.type.read record = .ok value) :
    catalogue.readAll (record :: records) = (catalogue.readAll records).map (value :: ·) := by
  rw [readAll_cons, read]
  rfl

theorem readAll_cons_error (failed : catalogue.type.read record = .error error) :
    catalogue.readAll (record :: records) = .error (.conversion error) := by
  rw [readAll_cons, failed]
  rfl

theorem readAll_eq_ok_iff {values : List Json} :
    catalogue.readAll records = .ok values ↔
      List.Forall₂ (fun record value => catalogue.type.read record = .ok value) records values := by
  rw [← mapM_eq_ok_iff, Catalogue.readAll]
  cases records.mapM catalogue.type.read <;> simp [Except.mapError]

/-- Reading fails exactly if a record cannot be read. -/
theorem readAll_fails_iff : (∃ error, catalogue.readAll records = .error error) ↔
    ∃ record ∈ records, ∃ reason, catalogue.type.read record = .error reason := by
  induction records with
  | nil =>
    exact iff_of_false (fun ⟨_, failed⟩ => nomatch failed) fun ⟨_, listed, _⟩ => nomatch listed
  | cons record records ih =>
    rw [List.exists_mem_cons_iff, ← ih]
    cases read : catalogue.type.read record with
    | error reason =>
      rw [readAll_cons_error read]
      exact iff_of_true ⟨_, rfl⟩ (.inl ⟨reason, rfl⟩)
    | ok value =>
      rw [readAll_cons_ok read]
      cases catalogue.readAll records <;> simp [Except.map]

open Querying

theorem Catalogue.settles_load (catalogue : Catalogue) (record : Record) :
    Settles (catalogue.load record) ((catalogue.type.read record).mapError .conversion) :=
  .ofExcept _

/-- Records are read without a call. -/
theorem Catalogue.settles_mapM_load (catalogue : Catalogue) (records : List Record) :
    Settles (records.mapM catalogue.load) (catalogue.readAll records) := by
  induction records with
  | nil => exact .done []
  | cons record records ih =>
    rw [List.mapM_cons, readAll_cons]
    exact (catalogue.settles_load record).bind fun value => ih.map fun values =>
      .done (value :: values)

end Reading

/-! ## Part 3 — reading what was fetched -/

/-- The records of fetched ids that have fields. -/
def filledRecords (keyspace : Keyspace) (fetched : List (Bytes × Fields)) : List Record :=
  (fetched.filter fun one => !one.2.isEmpty).map fun one => ⟨one.1, keyspace, one.2⟩

/-- How many fetched ids have no fields. -/
def bareIds (fetched : List (Bytes × Fields)) : Nat :=
  fetched.countP fun one => one.2.isEmpty

section Fetched

variable {keyspace : Keyspace} {fetched : List (Bytes × Fields)} {id : Bytes} {fields : Fields}

theorem filledRecords_cons_bare (bare : fields.isEmpty = true) :
    filledRecords keyspace ((id, fields) :: fetched) = filledRecords keyspace fetched := by
  rw [filledRecords, List.filter_cons_of_neg (by simpa using bare)]
  rfl

theorem filledRecords_cons_filled (filled : ¬ fields.isEmpty = true) :
    filledRecords keyspace ((id, fields) :: fetched) =
      ⟨id, keyspace, fields⟩ :: filledRecords keyspace fetched := by
  rw [filledRecords, List.filter_cons_of_pos (by simpa using filled)]
  rfl

theorem bareIds_cons_bare (bare : fields.isEmpty = true) :
    bareIds ((id, fields) :: fetched) = bareIds fetched + 1 :=
  List.countP_cons_of_pos bare

theorem bareIds_cons_filled (filled : ¬ fields.isEmpty = true) :
    bareIds ((id, fields) :: fetched) = bareIds fetched :=
  List.countP_cons_of_neg filled

theorem bareIds_add_length (keyspace : Keyspace) (fetched : List (Bytes × Fields)) :
    bareIds fetched + (filledRecords keyspace fetched).length = fetched.length := by
  have counted := List.length_eq_countP_add_countP (l := fetched) fun one => one.2.isEmpty
  rw [filledRecords, List.length_map, ← List.countP_eq_length_filter, bareIds, counted]
  simp

/-- **What was fetched is read without a further call**: ids without fields are passed over and
counted, and the others are read in their order. -/
theorem Catalogue.settles_loadAll (catalogue : Catalogue) (keyspace : Keyspace)
    (fetched : List (Bytes × Fields)) :
    Querying.Settles (catalogue.loadAll keyspace fetched)
      ((catalogue.readAll (filledRecords keyspace fetched)).map (·, bareIds fetched)) := by
  induction fetched with
  | nil => exact .done ([], 0)
  | cons one rest ih =>
    obtain ⟨id, fields⟩ := one
    by_cases bare : fields.isEmpty
    · have outcome : (catalogue.readAll (filledRecords keyspace rest)).map (·, bareIds rest + 1) =
          ((catalogue.readAll (filledRecords keyspace rest)).map (·, bareIds rest)).map
            fun found => (found.1, found.2 + 1) := by
        cases catalogue.readAll (filledRecords keyspace rest) <;> rfl
      rw [loadAll, if_pos bare, filledRecords_cons_bare bare, bareIds_cons_bare bare, outcome]
      exact .report (.idSkipped id) (ih.map fun found => .done (found.1, found.2 + 1))
    · have outcome : (catalogue.readAll (⟨id, keyspace, fields⟩ ::
          filledRecords keyspace rest)).map (·, bareIds rest) =
            ((catalogue.type.read ⟨id, keyspace, fields⟩).mapError .conversion).bind fun value =>
              ((catalogue.readAll (filledRecords keyspace rest)).map (·, bareIds rest)).map
                fun found => (value :: found.1, found.2) := by
        rw [readAll_cons]
        cases catalogue.type.read ⟨id, keyspace, fields⟩ with
        | error error => rfl
        | ok value => cases catalogue.readAll (filledRecords keyspace rest) <;> rfl
      rw [loadAll, if_neg bare, filledRecords_cons_filled bare, bareIds_cons_filled bare, outcome]
      exact (catalogue.settles_load _).bind fun value => ih.map fun found =>
        .done (value :: found.1, found.2)

end Fetched

end SecondaryIndex
