/-
**What a schema is after any declarations.**

* `lastRole?` and `since` — how a path was declared last, and how long ago;
* `SumsUp` — a schema lists every path with its last role, in the order of the last declarations; a
  further declaration leaves it so (`SumsUp.declare`), hence it is so after all of them
  (`sumsUp_declareAll`);
* `SumsUp.resolve_eq` and `SumsUp.resolveGeo_eq` — what is found of a path, and why nothing is;
* `Declared.nodup` — no path is declared twice, and `identifies` — whether a path is that of the id;
* `schema_of_declarations` — what declarations, one after the other, come to.
-/

import Mathlib.Data.List.Induction
import Mathlib.Data.List.Nodup
import SecondaryIndex.Schema

namespace SecondaryIndex.Schema

variable {schema : Schema} {declarations : List (Role × String)} {role : Role} {path : String}
  {property : Property}

/-! ## Part 1 — the last declaration of a path -/

/-- The role with which a path was declared last. -/
def lastRole? (declarations : List (Role × String)) (path : String) : Option Role :=
  (declarations.reverse.find? (·.2 = path)).map Prod.fst

/-- How many declarations came after the last one of a path. -/
def since (declarations : List (Role × String)) (path : String) : Nat :=
  declarations.reverse.findIdx (·.2 = path)

theorem lastRole?_concat (declarations : List (Role × String)) (role : Role) (path other : String) :
    lastRole? (declarations ++ [(role, path)]) other =
      if path = other then some role else lastRole? declarations other := by
  unfold lastRole?
  rw [List.reverse_concat, List.find?_cons]
  by_cases same : path = other
  · simp [same]
  · simp [same]

theorem since_concat (declarations : List (Role × String)) (role : Role) (path other : String) :
    since (declarations ++ [(role, path)]) other =
      if path = other then 0 else since declarations other + 1 := by
  unfold since
  rw [List.reverse_concat, List.findIdx_cons]
  by_cases same : path = other
  · simp [same]
  · simp [same]

/-- A path has a last role exactly if it is declared. -/
theorem isSome_lastRole?_iff :
    (lastRole? declarations path).isSome ↔ path ∈ declarations.map Prod.snd := by
  simp [lastRole?]

/-! ## Part 2 — declaring on -/

/-- **A schema sums up declarations**: it lists what they leave, those that were made last at the
end. -/
structure SumsUp (schema : Schema) (declarations : List (Role × String)) : Prop where
  mem_iff : ∀ property, property ∈ schema.properties ↔
    lastRole? declarations property.path = some property.role
  order : schema.properties.Pairwise fun one other =>
    since declarations other.path < since declarations one.path

/-- A declaration takes the place of the earlier ones of its path. -/
theorem SumsUp.declare (sums : schema.SumsUp declarations) (role : Role) (path : String) :
    (schema.declare role path).SumsUp (declarations ++ [(role, path)]) where
  mem_iff property := by
    show property ∈ schema.properties.filter (·.path ≠ path) ++ [⟨path, role⟩] ↔ _
    rw [List.mem_append, List.mem_filter, List.mem_singleton, sums.mem_iff, lastRole?_concat]
    obtain ⟨other, held⟩ := property
    by_cases same : path = other
    · subst same
      simp [eq_comm]
    · simp [same, Ne.symm same]
  order := by
    show List.Pairwise _ (schema.properties.filter (·.path ≠ path) ++ [⟨path, role⟩])
    have others : ∀ one ∈ schema.properties.filter (·.path ≠ path),
        since (declarations ++ [(role, path)]) one.path = since declarations one.path + 1 := by
      intro one kept
      have different : one.path ≠ path := of_decide_eq_true (List.mem_filter.mp kept).2
      rw [since_concat, if_neg (Ne.symm different)]
    refine List.pairwise_append.mpr ⟨?_, List.pairwise_singleton _ _, fun one kept last new => ?_⟩
    · refine (sums.order.filter _).imp_of_mem fun {one other} first second less => ?_
      rw [others one first, others other second]
      exact Nat.succ_lt_succ less
    · rw [others one kept, List.mem_singleton.mp new, since_concat, if_pos rfl]
      exact Nat.succ_pos _

theorem declareAll_concat (schema : Schema) (declarations : List (Role × String)) (role : Role)
    (path : String) :
    schema.declareAll (declarations ++ [(role, path)]) =
      (schema.declareAll declarations).declare role path := by
  unfold declareAll
  rw [List.foldl_concat]

/-- **Declarations are summed up**, however many there are. -/
theorem sumsUp_declareAll (name : String) (keyspace : Keyspace)
    (declarations : List (Role × String)) :
    ((empty name keyspace).declareAll declarations).SumsUp declarations := by
  induction declarations using List.reverseRecOn with
  | nil => exact ⟨fun property => by simp [declareAll, empty, lastRole?], List.Pairwise.nil⟩
  | append_singleton declarations declaration ih =>
    rw [declareAll_concat]
    exact ih.declare declaration.1 declaration.2

theorem name_declareAll (schema : Schema) (declarations : List (Role × String)) :
    (schema.declareAll declarations).name = schema.name := by
  induction declarations using List.reverseRecOn with
  | nil => rfl
  | append_singleton declarations declaration ih =>
    rw [declareAll_concat]
    exact ih

/-! ## Part 3 — asking a schema -/

namespace SumsUp

variable (sums : schema.SumsUp declarations)

include sums

/-- No path is listed twice. -/
theorem nodup : (schema.properties.map (·.path)).Nodup := by
  rw [List.Nodup, List.pairwise_map]
  refine sums.order.imp fun less same => ?_
  rw [same] at less
  exact Nat.lt_irrefl _ less

/-- A path is listed exactly if it is declared. -/
theorem mem_paths_iff :
    path ∈ schema.properties.map (·.path) ↔ path ∈ declarations.map Prod.snd := by
  rw [← isSome_lastRole?_iff, List.mem_map, Option.isSome_iff_exists]
  constructor
  · rintro ⟨property, listed, rfl⟩
    exact ⟨property.role, (sums.mem_iff property).mp listed⟩
  · rintro ⟨role, known⟩
    exact ⟨⟨path, role⟩, (sums.mem_iff _).mpr known, rfl⟩

theorem find?_eq (path : String) :
    schema.properties.find? (·.path = path) =
      (lastRole? declarations path).map (Property.mk path) := by
  cases found : schema.properties.find? (·.path = path) with
  | none =>
    cases known : lastRole? declarations path with
    | none => rfl
    | some role =>
      have listed : ⟨path, role⟩ ∈ schema.properties := (sums.mem_iff _).mpr known
      exact (List.find?_eq_none.mp found _ listed (decide_eq_true rfl)).elim
  | some property =>
    have same : property.path = path := by simpa using List.find?_some found
    have known := (sums.mem_iff property).mp (List.mem_of_find?_eq_some found)
    rw [← same, known]
    rfl

theorem resolve_eq (path : String) :
    schema.resolve path =
      match lastRole? declarations path with
      | some role => .ok ⟨path, role⟩
      | none => .error (.unknownProperty schema.name path) := by
  rw [resolve, sums.find?_eq]
  cases lastRole? declarations path with
  | none => rfl
  | some role => rfl

theorem resolveGeo_eq (path : String) :
    schema.resolveGeo path =
      match lastRole? declarations path with
      | some .geoIndexed => .ok ⟨path, .geoIndexed⟩
      | some _ => .error (.notGeoIndexed schema.name path)
      | none => .error (.unknownProperty schema.name path) := by
  rw [resolveGeo, sums.resolve_eq]
  cases lastRole? declarations path with
  | none => rfl
  | some role => cases role <;> rfl

/-- Among the properties of a role, those paths are listed once that were last declared with it. -/
theorem count_paths_filter_role (role : Role) (path : String) :
    ((schema.properties.filter (·.role = role)).map (·.path)).count path =
      if lastRole? declarations path = some role then 1 else 0 := by
  rw [(sums.nodup.sublist (List.filter_sublist.map _)).count]
  refine if_congr ?_ rfl rfl
  rw [List.mem_map]
  constructor
  · rintro ⟨property, kept, rfl⟩
    obtain ⟨listed, same⟩ := List.mem_filter.mp kept
    rw [(sums.mem_iff property).mp listed, of_decide_eq_true same]
  · intro known
    have listed : ⟨path, role⟩ ∈ schema.properties := (sums.mem_iff _).mpr known
    exact ⟨⟨path, role⟩, List.mem_filter.mpr ⟨listed, decide_eq_true rfl⟩, rfl⟩

theorem lastRole?_of_idProperty? (found : schema.idProperty? = some property) :
    lastRole? declarations property.path = some .identifier := by
  have listed := List.mem_of_find?_eq_some found
  have identifies : property.isId = true := List.find?_some found
  rw [(sums.mem_iff property).mp listed, of_decide_eq_true identifies]

theorem idProperty?_eq_none_iff :
    schema.idProperty? = none ↔ ∀ path, lastRole? declarations path ≠ some .identifier := by
  rw [idProperty?, List.find?_eq_none]
  constructor
  · intro none path known
    exact none ⟨path, .identifier⟩ ((sums.mem_iff _).mpr known) rfl
  · intro none property listed identifies
    apply none property.path
    rw [(sums.mem_iff property).mp listed, of_decide_eq_true identifies]

end SumsUp

/-- The id stays the id, whatever is declared of other paths. -/
theorem idProperty?_declare (found : schema.idProperty? = some property)
    (different : property.path ≠ path) :
    (schema.declare role path).idProperty? = some property := by
  obtain ⟨identifies, before, after, split, others⟩ := List.find?_eq_some_iff_append.mp found
  refine List.find?_eq_some_iff_append.mpr ⟨identifies, before.filter (·.path ≠ path),
    after.filter (·.path ≠ path) ++ [⟨path, role⟩], ?_, fun other listed => ?_⟩
  · show schema.properties.filter (·.path ≠ path) ++ [⟨path, role⟩] = _
    rw [split]
    simp [different]
  · exact others other (List.mem_filter.mp listed).1

/-- The schema came about by declarations. -/
def Declared (schema : Schema) : Prop :=
  ∃ name keyspace declarations, schema = (empty name keyspace).declareAll declarations

/-- The path is one of the id. -/
def identifies (schema : Schema) (path : String) : Bool :=
  (schema.properties.find? (·.path = path)).any Property.isId

/-- **No path is declared twice.** -/
theorem Declared.nodup (declared : schema.Declared) : (schema.properties.map (·.path)).Nodup := by
  obtain ⟨name, keyspace, declarations, rfl⟩ := declared
  exact (sumsUp_declareAll name keyspace declarations).nodup

theorem Declared.find?_eq (declared : schema.Declared) (listed : property ∈ schema.properties) :
    schema.properties.find? (·.path = property.path) = some property := by
  obtain ⟨name, keyspace, declarations, rfl⟩ := declared
  have sums := sumsUp_declareAll name keyspace declarations
  rw [sums.find?_eq, (sums.mem_iff property).mp listed]
  rfl

theorem resolve_eq_ok (found : schema.resolve path = .ok property) :
    property ∈ schema.properties ∧ property.path = path ∧
      property.isId = schema.identifies path := by
  rw [resolve] at found
  cases here : schema.properties.find? (·.path = path) with
  | none =>
    rw [here] at found
    cases found
  | some held =>
    rw [here] at found
    cases found
    have same : property.path = path := by simpa using List.find?_some here
    exact ⟨List.mem_of_find?_eq_some here, same, by rw [identifies, here, Option.any_some]⟩

/-! ## Part 4 — what declarations come to -/

/-- **The last declaration of a path is the one that counts.** Every declared path is listed once,
with its last role and those that were declared last at the end. What is found of a path, and which
paths have index sets or positions, is told by the last roles. So is the id, which stays while other
paths are declared and is lost when its own is declared as something else. -/
theorem schema_of_declarations {name : String} {keyspace : Keyspace}
    (made : schema = (empty name keyspace).declareAll declarations) :
    schema.SumsUp declarations ∧
    (∀ path, (schema.properties.map (·.path)).count path =
      if path ∈ declarations.map Prod.snd then 1 else 0) ∧
    (∀ path, (lastRole? declarations path).isSome ↔ path ∈ declarations.map Prod.snd) ∧
    (∀ path, schema.resolve path =
      match lastRole? declarations path with
      | some role => .ok ⟨path, role⟩
      | none => .error (.unknownProperty name path)) ∧
    (∀ path, schema.resolveGeo path =
      match lastRole? declarations path with
      | some .geoIndexed => .ok ⟨path, .geoIndexed⟩
      | some _ => .error (.notGeoIndexed name path)
      | none => .error (.unknownProperty name path)) ∧
    (∀ path, (schema.indexed.map (·.path)).count path =
      if lastRole? declarations path = some .indexed then 1 else 0) ∧
    (∀ path, (schema.geoIndexed.map (·.path)).count path =
      if lastRole? declarations path = some .geoIndexed then 1 else 0) ∧
    (schema.idProperty? = none ↔ ∀ path, lastRole? declarations path ≠ some .identifier) ∧
    (∀ property, schema.idProperty? = some property →
      lastRole? declarations property.path = some .identifier) ∧
    ∀ role path property,
      (schema.idProperty? = some property → property.path ≠ path →
        (schema.declare role path).idProperty? = some property) ∧
      (role ≠ .identifier → (schema.declare role path).idProperty? = some property →
        property.path ≠ path) := by
  have sums : schema.SumsUp declarations := made ▸ sumsUp_declareAll name keyspace declarations
  have named : schema.name = name := by rw [made, name_declareAll]; rfl
  refine ⟨sums, fun path => ?_, fun path => isSome_lastRole?_iff, ?_, ?_,
    sums.count_paths_filter_role .indexed, sums.count_paths_filter_role .geoIndexed,
    sums.idProperty?_eq_none_iff, fun property => sums.lastRole?_of_idProperty?,
    fun role path property => ⟨idProperty?_declare, fun other found same => ?_⟩⟩
  · rw [sums.nodup.count]
    exact if_congr sums.mem_paths_iff rfl rfl
  · exact named ▸ sums.resolve_eq
  · exact named ▸ sums.resolveGeo_eq
  · have known := (sums.declare role path).lastRole?_of_idProperty? found
    rw [lastRole?_concat, if_pos same.symm, Option.some.injEq] at known
    exact other known

/-- Three paths, two of them declared again. -/
def redeclared : List (Role × String) :=
  [(.identifier, "id"), (.indexed, "age"), (.geoIndexed, "home"), (.plain, "age"),
    (.indexed, "home")]

/-- The age is no longer indexed, the home no longer has a position, and an id that is declared
again as a plain path is no id. -/
theorem schema_of_declarations_redeclared : ∃ schema : Schema,
    schema = (empty "Person" ⟨"persons"⟩).declareAll redeclared ∧
      schema.SumsUp redeclared ∧
      schema.properties = [⟨"id", .identifier⟩, ⟨"age", .plain⟩, ⟨"home", .indexed⟩] ∧
      schema.resolve "age" = .ok ⟨"age", .plain⟩ ∧
      schema.resolve "name" = .error (.unknownProperty "Person" "name") ∧
      schema.resolveGeo "home" = .error (.notGeoIndexed "Person" "home") ∧
      (schema.declare .plain "name").idProperty? = some ⟨"id", .identifier⟩ ∧
      (schema.declare .plain "id").idProperty? ≠ some ⟨"id", .identifier⟩ := by
  obtain ⟨sums, -, -, resolves, resolvesGeo, -, -, -, -, declares⟩ :=
    schema_of_declarations (rfl : (empty "Person" ⟨"persons"⟩).declareAll redeclared = _)
  refine ⟨_, rfl, sums, by decide +kernel, ?_, ?_, ?_, ?_, fun found => ?_⟩
  · exact (resolves "age").trans (by decide +kernel)
  · exact (resolves "name").trans (by decide +kernel)
  · exact (resolvesGeo "home").trans (by decide +kernel)
  · exact (declares .plain "name" ⟨"id", .identifier⟩).1 (by decide +kernel) (by decide)
  · exact (declares .plain "id" ⟨"id", .identifier⟩).2 (by decide) found rfl

end SecondaryIndex.Schema
