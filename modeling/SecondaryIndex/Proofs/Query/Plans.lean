/-
**What criteria become, before a store is asked.**

A plan is a matter of the schema alone: its making asks no call, so it ends alike whoever would
answer.

* `identifies_eq_false_of_mem` — no entity is indexed under its id;
* `Criteria.misfit?` — the error of the first path that does not fit the schema, and
  `Criteria.misfit?_eq_none_iff` — there is none exactly if all paths are declared, the one of the
  circle as one with positions;
* `Plan.settles_resolve` — the plan of criteria is `Catalogue.planOf`, unless a path misfits, and
  then that error is reported.
-/

import SecondaryIndex.Proofs.Query.Settling
import SecondaryIndex.Proofs.Schema

namespace SecondaryIndex

/-! ## Part 1 — declared paths -/

/-- Index entries are of declared paths that are indexed. -/
theorem exists_property_of_mem {schema : Schema} {value : Json} {entry : IndexEntry}
    (listed : entry ∈ indexEntries schema value) :
    ∃ property ∈ schema.properties, property.path = entry.path ∧ property.role = .indexed := by
  obtain ⟨property, declared, named⟩ := List.mem_flatMap.mp listed
  obtain ⟨held, _, rfl⟩ := List.mem_map.mp named
  have filtered := List.mem_filter.mp declared
  exact ⟨property, filtered.1, rfl, of_decide_eq_true filtered.2⟩

/-- No entity is indexed under its id. -/
theorem identifies_eq_false_of_mem {schema : Schema} {value : Json} {entry : IndexEntry}
    (declared : schema.Declared) (listed : entry ∈ indexEntries schema value) :
    schema.identifies entry.path = false := by
  obtain ⟨property, member, same, indexed⟩ := exists_property_of_mem listed
  rw [Schema.identifies, ← same, declared.find?_eq member, Option.any_some, Property.isId, indexed]
  rfl

/-- The paths of all predicates are declared. -/
def Resolves (schema : Schema) (predicates : List Predicate) : Prop :=
  ∀ predicate ∈ predicates, ∃ property, schema.resolve predicate.path = .ok property

/-! ## Part 2 — paths that fit -/

/-- Why there is no value. -/
def failure? {ε α : Type} : Except ε α → Option ε
  | .ok _ => none
  | .error error => some error

theorem failure?_eq_none_iff {ε α : Type} {outcome : Except ε α} :
    failure? outcome = none ↔ ∃ value, outcome = .ok value := by
  cases outcome <;> simp [failure?]

/-- The error of the first of some predicates whose path is not declared. -/
def Schema.misfit? (schema : Schema) (predicates : List Predicate) : Option MappingError :=
  predicates.findSome? fun predicate => failure? (schema.resolve predicate.path)

/-- **The error of the first path that does not fit the schema**: first those of the predicates to
be met together, then those of which one is enough, then the circle. -/
def Criteria.misfit? (schema : Schema) (criteria : Criteria) : Option MappingError :=
  (schema.misfit? criteria.all.toList).or ((schema.misfit? criteria.any.toList).or
    (criteria.near?.bind fun near => failure? (schema.resolveGeo near.path)))

section Misfits

variable {schema : Schema} {criteria : Criteria} {predicates : List Predicate}

theorem Schema.misfit?_cons (schema : Schema) (predicate : Predicate)
    (predicates : List Predicate) :
    schema.misfit? (predicate :: predicates) =
      (failure? (schema.resolve predicate.path)).or (schema.misfit? predicates) := by
  rw [misfit?, List.findSome?_cons]
  cases failure? (schema.resolve predicate.path) <;> rfl

theorem Schema.misfit?_eq_none_iff :
    schema.misfit? predicates = none ↔ Resolves schema predicates := by
  rw [Schema.misfit?, List.findSome?_eq_none_iff]
  simp only [failure?_eq_none_iff]
  exact Iff.rfl

/-- **All paths fit** exactly if those of predicates are declared, and that of the circle as one
with positions. -/
theorem Criteria.misfit?_eq_none_iff :
    criteria.misfit? schema = none ↔
      SecondaryIndex.Resolves schema (criteria.all.toList ++ criteria.any.toList) ∧
        ∀ near, criteria.near? = some near →
          ∃ property, schema.resolveGeo near.path = .ok property := by
  rw [Criteria.misfit?, Option.or_eq_none_iff, Option.or_eq_none_iff, Schema.misfit?_eq_none_iff,
    Schema.misfit?_eq_none_iff, SecondaryIndex.Resolves, SecondaryIndex.Resolves,
    SecondaryIndex.Resolves, List.forall_mem_append, and_assoc]
  refine and_congr_right fun _ => and_congr_right fun _ => ?_
  cases criteria.near? <;> simp [failure?_eq_none_iff]

theorem Criteria.misfit?_eq_none (near : criteria.near? = none)
    (resolves : SecondaryIndex.Resolves schema (criteria.all.toList ++ criteria.any.toList)) :
    criteria.misfit? schema = none :=
  misfit?_eq_none_iff.mpr ⟨resolves, fun _ found => by rw [near] at found; cases found⟩

end Misfits

/-! ## Part 3 — plans -/

namespace Catalogue

/-- The ids that predicates on the id ask for. -/
def idsAsked (catalogue : Catalogue) (predicates : List Predicate) : List Bytes :=
  (predicates.filter fun predicate => catalogue.schema.identifies predicate.path).flatMap
    fun predicate => predicate.values.map catalogue.identify

/-- The group of predicates of which one is enough: those on the id name ids, the others are looked
up. -/
def anyOf (catalogue : Catalogue) (keyspace : Keyspace) (predicates : List Predicate) : Group where
  direct := catalogue.idsAsked predicates
  keys := indexKeys keyspace
    (predicates.filter fun predicate => !catalogue.schema.identifies predicate.path)

/-- The group of predicates to be met together: a lone one on the id names ids, several are all
looked up. -/
def allOf (catalogue : Catalogue) (keyspace : Keyspace) : List Predicate → Group
  | [predicate] => catalogue.anyOf keyspace [predicate]
  | predicates => ⟨[], indexKeys keyspace predicates⟩

/-- The plan of criteria all of whose paths fit. -/
def planOf (catalogue : Catalogue) (keyspace : Keyspace) (criteria : Criteria) : Plan where
  all := catalogue.allOf keyspace criteria.all.toList
  any := catalogue.anyOf keyspace criteria.any.toList
  near? := criteria.near?.map fun near => ⟨keyspace.geoKey near.path, near.circle⟩

end Catalogue

section Plans

open Querying

/-- Predicates are sorted into ids and look-ups, unless a path misfits. -/
theorem selection_of_eq (catalogue : Catalogue) (predicates : List Predicate) :
    Selection.of catalogue.identify catalogue.schema predicates =
      valueUnless (catalogue.schema.misfit? predicates) ⟨catalogue.idsAsked predicates,
        predicates.filter fun predicate => !catalogue.schema.identifies predicate.path⟩ := by
  induction predicates with
  | nil => rfl
  | cons predicate predicates ih =>
    rw [Selection.of, ih, Schema.misfit?_cons]
    cases found : catalogue.schema.resolve predicate.path with
    | error error => rfl
    | ok property =>
      have role : property.isId = catalogue.schema.identifies predicate.path :=
        (Schema.resolve_eq_ok found).2.2
      cases catalogue.schema.misfit? predicates with
      | some error => rfl
      | none =>
        cases identified : catalogue.schema.identifies predicate.path <;>
          simp [failure?, valueUnless, bind, Except.bind, pure, Except.pure, Catalogue.idsAsked,
            role, identified]

theorem exists_mapM_resolve (schema : Schema) (predicates : List Predicate) :
    ∃ properties, (predicates.mapM fun predicate => schema.resolve predicate.path) =
      valueUnless (schema.misfit? predicates) properties := by
  induction predicates with
  | nil => exact ⟨[], rfl⟩
  | cons predicate predicates ih =>
    obtain ⟨properties, rest⟩ := ih
    rw [List.mapM_cons, rest, Schema.misfit?_cons]
    cases found : schema.resolve predicate.path with
    | error error => exact ⟨[], rfl⟩
    | ok property =>
      refine ⟨property :: properties, ?_⟩
      cases schema.misfit? predicates <;> rfl

theorem settles_select (catalogue : Catalogue) (predicates : List Predicate) :
    Settles (Plan.select catalogue.identify catalogue.schema predicates)
      (valueUnless ((catalogue.schema.misfit? predicates).map .mapping)
        ⟨catalogue.idsAsked predicates,
          predicates.filter fun predicate => !catalogue.schema.identifies predicate.path⟩) := by
  rw [Plan.select, selection_of_eq, mapError_valueUnless]
  exact (Settles.ofExcept _).bind_ok (.report _ (.done _))

theorem settles_resolveAny (catalogue : Catalogue) (keyspace : Keyspace)
    (predicates : List Predicate) :
    Settles (Plan.resolveAny catalogue.identify catalogue.schema keyspace predicates)
      (valueUnless ((catalogue.schema.misfit? predicates).map .mapping)
        (catalogue.anyOf keyspace predicates)) :=
  (settles_select catalogue predicates).bind_ok (.done _)

theorem settles_resolveAll (catalogue : Catalogue) (keyspace : Keyspace)
    (predicates : List Predicate) :
    Settles (Plan.resolveAll catalogue.identify catalogue.schema keyspace predicates)
      (valueUnless ((catalogue.schema.misfit? predicates).map .mapping)
        (catalogue.allOf keyspace predicates)) := by
  have looked (predicates : List Predicate) : Settles
      ((Dialogue.ofExcept ((predicates.mapM fun predicate =>
        catalogue.schema.resolve predicate.path).mapError .mapping)).bind fun _ =>
          .done (⟨[], indexKeys keyspace predicates⟩ : Group))
      (valueUnless ((catalogue.schema.misfit? predicates).map .mapping)
        ⟨[], indexKeys keyspace predicates⟩) := by
    obtain ⟨properties, resolved⟩ := exists_mapM_resolve catalogue.schema predicates
    rw [resolved, mapError_valueUnless]
    exact (Settles.ofExcept _).bind_ok (.done _)
  match predicates with
  | [] => exact looked []
  | [predicate] => exact settles_resolveAny catalogue keyspace [predicate]
  | first :: second :: rest => exact looked (first :: second :: rest)

theorem settles_resolveNear (schema : Schema) (keyspace : Keyspace) (near? : Option Near) :
    Settles (Plan.resolveNear schema keyspace near?)
      (valueUnless ((near?.bind fun near => failure? (schema.resolveGeo near.path)).map .mapping)
        (near?.map fun near => ⟨keyspace.geoKey near.path, near.circle⟩)) := by
  cases near? with
  | none => exact .done none
  | some near =>
    rw [Plan.resolveNear, Option.bind_some]
    cases schema.resolveGeo near.path with
    | error error => exact .fail (.mapping error)
    | ok property => exact .done (some (Area.mk (keyspace.geoKey near.path) near.circle))

/-- **The plan of criteria**, or the error of the first path that does not fit. -/
theorem Plan.settles_resolve (catalogue : Catalogue) (keyspace : Keyspace) (criteria : Criteria) :
    Settles (Plan.resolve catalogue.identify catalogue.schema keyspace criteria)
      ((valueUnless (criteria.misfit? catalogue.schema)
        (catalogue.planOf keyspace criteria)).mapError .mapping) := by
  have all := settles_resolveAll catalogue keyspace criteria.all.toList
  have any := settles_resolveAny catalogue keyspace criteria.any.toList
  have near := settles_resolveNear catalogue.schema keyspace criteria.near?
  rw [mapError_valueUnless, Criteria.misfit?, Option.map_or, Option.map_or]
  exact all.bind_valueUnless (any.bind_valueUnless (near.bind_ok (.report _ (.done _))))

/-- Where all paths fit, nothing but the plan comes of it. -/
theorem Plan.settles_of_fits {catalogue : Catalogue} {criteria : Criteria}
    (fits : criteria.misfit? catalogue.schema = none) (keyspace : Keyspace) :
    Settles (Plan.resolve catalogue.identify catalogue.schema keyspace criteria)
      (.ok (catalogue.planOf keyspace criteria)) := by
  have settles := settles_resolve catalogue keyspace criteria
  rwa [fits] at settles

theorem Plan.settles_of_misfit {catalogue : Catalogue} {criteria : Criteria} {error : MappingError}
    (misfit : criteria.misfit? catalogue.schema = some error) (keyspace : Keyspace) :
    Settles (Plan.resolve catalogue.identify catalogue.schema keyspace criteria)
      (.error (.mapping error)) := by
  have settles := settles_resolve catalogue keyspace criteria
  rwa [misfit] at settles

end Plans

end SecondaryIndex
