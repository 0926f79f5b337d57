/-
**What a query comes to, for any criteria and any page.**

Criteria are turned into a plan before a store is asked, so a query with a store in the same process
is a function of that store, also where it fails:

* `Catalogue.namedOn` — the ids on a page of those that criteria name, those within a circle included,
  and `Catalogue.eval_findOn` — a query reads what they stand for;
* `Catalogue.named` and `Catalogue.eval_findIn` — the same for a query that is not paged;
* `Catalogue.plan_eq` — a plan is made of criteria all of whose paths fit, `Catalogue.plan_eq_ok` —
  group by group;
* `Catalogue.counted` and `Catalogue.eval_countIn` — counting adds up the two groups of the plan;
* `Catalogue.Returns` — which ids a query returns the entities of, and `returns_of_readable` — these
  are the named ones with fields, if all of them can be read;
* `Catalogue.exists_named` and `Catalogue.namedOn_eq` — criteria whose paths fit name ids, and
  without a circle a page is cut from all of them.
-/

import SecondaryIndex.Proofs.Query.Moments

namespace SecondaryIndex

/-! ## Part 1 — what a query comes to -/

/-- The ids within the circle of a plan. -/
def Plan.closeIds (store : Store) (plan : Plan) : List Bytes :=
  plan.near?.elim [] fun area => store.within area.key area.circle none

/-- All ids of a plan, each once. -/
def Plan.found (store : Store) (plan : Plan) : List Bytes :=
  (InsertionSet.ofList (plan.all.commonIds store ++ plan.all.direct ++
    (plan.any.jointIds store ++ plan.any.direct) ++ plan.closeIds store)).toList

/-- The ids within the circle of a plan, so many of them at most. -/
def Plan.closeUpTo (limit : Option Nat) (store : Store) (plan : Plan) : List Bytes :=
  plan.near?.elim [] fun area => store.within area.key area.circle limit

/-- All ids of a plan where so many within its circle are asked for at most, each once. -/
def Plan.foundUpTo (limit : Option Nat) (store : Store) (plan : Plan) : List Bytes :=
  (InsertionSet.ofList (plan.all.commonIds store ++ plan.all.direct ++
    (plan.any.jointIds store ++ plan.any.direct) ++ plan.closeUpTo limit store)).toList

/-- The plan of criteria, in which no store has a part. -/
def Catalogue.plan (catalogue : Catalogue) (keyspace : Keyspace) (criteria : Criteria) :
    Except QueryError Plan :=
  ((Plan.resolve catalogue.identify catalogue.schema keyspace criteria).eval .empty).1

/-- The ids that criteria name: those of their plan, or all registered ones. -/
def Catalogue.named (catalogue : Catalogue) (keyspace : Keyspace) (criteria : Criteria)
    (store : Store) : Except QueryError (List Bytes) :=
  if criteria.isEmpty then .ok (store.members keyspace.registryKey).toList
  else (catalogue.plan keyspace criteria).map (Plan.found store)

/-- The ids on a page of those that criteria name; the rows of the page limit the circle, too. -/
def Catalogue.namedOn (catalogue : Catalogue) (keyspace : Keyspace) (criteria : Criteria)
    (page : Page) (store : Store) : Except QueryError (List Bytes) :=
  if criteria.isEmpty then .ok (page.apply (store.members keyspace.registryKey).toList)
  else (catalogue.plan keyspace criteria).map fun plan =>
    page.apply (plan.foundUpTo (page.rows.map UInt64.toNat) store)

theorem Catalogue.namedOn_whole (catalogue : Catalogue) (keyspace : Keyspace) (criteria : Criteria)
    (store : Store) :
    catalogue.namedOn keyspace criteria .whole store = catalogue.named keyspace criteria store := by
  simp only [namedOn, named, apply_whole]
  rfl

/-- How many ids a group has: members of sets, and ids without a look-up if they have fields. -/
def Group.tally (keyspace : Keyspace) (store : Store) (group : Group)
    (members : List Bytes) : Nat :=
  (InsertionSet.ofList (members ++ group.direct.filter fun id =>
    !(store.fieldsAt (keyspace.entityKey id)).isEmpty)).size

/-- How many entities meet criteria, group by group, or how many are registered. -/
def Catalogue.counted (catalogue : Catalogue) (keyspace : Keyspace) (criteria : Criteria)
    (store : Store) : Except QueryError Nat :=
  if criteria.isEmpty then .ok (store.count keyspace)
  else (catalogue.plan keyspace criteria).map fun plan =>
    plan.all.tally keyspace store (plan.all.commonIds store) +
      plan.any.tally keyspace store (plan.any.jointIds store)

/-- Without a limit, all that are near enough are within a circle. -/
theorem Store.mem_within {store : Store} {key id : Bytes} {circle : Circle} :
    id ∈ store.within key circle none ↔ ∃ point, store.position? key id = some point ∧
      circle.center.distance point ≤ circle.radius.inMeters := by
  rw [Store.within, reached, Option.elim_none, withinReach, Store.measured, List.filter_map,
    List.map_map, List.mem_map]
  constructor
  · rintro ⟨⟨member, point⟩, listed, rfl⟩
    obtain ⟨held, close⟩ := List.mem_filter.mp listed
    exact ⟨point, InsertionMap.mem_entries.mp held, of_decide_eq_true close⟩
  · rintro ⟨point, held, close⟩
    exact ⟨(id, point), List.mem_filter.mpr
      ⟨InsertionMap.mem_entries.mpr held, decide_eq_true close⟩, rfl⟩

/-! ## Part 2 — queries with a store -/

section Evaluation

variable {catalogue : Catalogue} {keyspace : Keyspace} {criteria : Criteria} {plan : Plan}
  {store : Store}

open Querying

/-- What a plan is for a store in the same process. -/
theorem Catalogue.plan_eq (catalogue : Catalogue) (keyspace : Keyspace) (criteria : Criteria) :
    catalogue.plan keyspace criteria =
      (valueUnless (criteria.misfit? catalogue.schema)
        (catalogue.planOf keyspace criteria)).mapError .mapping :=
  congrArg Prod.fst ((Plan.settles_resolve catalogue keyspace criteria).eval_eq .empty)

theorem eval_resolve_eq (catalogue : Catalogue) (keyspace : Keyspace) (criteria : Criteria)
    (store : Store) :
    eval (Plan.resolve catalogue.identify catalogue.schema keyspace criteria) store =
      (catalogue.plan keyspace criteria, store) := by
  rw [Catalogue.plan_eq]
  exact (Plan.settles_resolve catalogue keyspace criteria).eval_eq store

/-- The plan of criteria is made group by group. -/
theorem Catalogue.plan_eq_ok {all any : Group} {near? : Option Area}
    (allAre : eval (Plan.resolveAll catalogue.identify catalogue.schema keyspace
      criteria.all.toList) .empty = (.ok all, .empty))
    (anyAre : eval (Plan.resolveAny catalogue.identify catalogue.schema keyspace
      criteria.any.toList) .empty = (.ok any, .empty))
    (nearIs : eval (Plan.resolveNear catalogue.schema keyspace criteria.near?) .empty =
      (.ok near?, .empty)) :
    catalogue.plan keyspace criteria = .ok ⟨all, any, near?⟩ := by
  refine (congrArg Prod.fst (eval_bind_ok allAre)).trans ?_
  refine (congrArg Prod.fst (eval_bind_ok anyAre)).trans ?_
  exact congrArg Prod.fst (eval_bind_ok nearIs)

theorem eval_resolveNear {schema : Schema} {near : Near} {property : Property}
    (located : schema.resolveGeo near.path = .ok property) :
    eval (Plan.resolveNear schema keyspace (some near)) .empty =
      (.ok (some ⟨keyspace.geoKey near.path, near.circle⟩), .empty) := by
  rw [Plan.resolveNear, located]
  rfl

/-- With a circle, criteria ask for something. -/
theorem Criteria.isEmpty_withNear (criteria : Criteria) (near : Near) :
    (criteria.withNear near).isEmpty = false :=
  Bool.and_false _

theorem eval_collect_eq (limit : Option Nat) (plan : Plan) (store : Store) :
    eval (Catalogue.collect plan limit) store = (.ok (plan.foundUpTo limit store), store) := by
  have near : eval (Catalogue.inArea limit plan.near?) store =
      (.ok (plan.closeUpTo limit store), store) := by
    rw [Plan.closeUpTo]
    cases plan.near? <;> rfl
  exact (eval_bind_ok eval_common).trans ((eval_bind_ok eval_joint).trans (eval_bind_ok near))

/-- What was found is put in order. -/
theorem eval_arranged {query : Querying (List Json × Nat)}
    {outcome : Except QueryError (List Json)} {missing : Nat}
    (found : eval query store = (outcome.map (·, missing), store))
    (sorting : Option (Sorting Json)) :
    (eval (query.bind fun found => do
      Dialogue.observe (.searched keyspace found.2)
      return arranged sorting found.1) store).1 = outcome.map (arranged sorting) := by
  cases outcome with
  | ok values => exact congrArg Prod.fst (eval_bind_ok found)
  | error error => exact congrArg Prod.fst (eval_bind_error found)

theorem eval_findPage (catalogue : Catalogue) (keyspace : Keyspace) (page : Page) (store : Store) :
    eval (catalogue.findPage keyspace page) store =
      ((catalogue.readAll ((page.apply (store.members keyspace.registryKey).toList).filterMap
        (store.get? keyspace))).map (·, 0), store) := by
  have fetched : eval (call (.pageOf keyspace page)) store =
      (.ok (store.pageOf keyspace page), store) := rfl
  have loaded := (catalogue.settles_mapM_load (store.pageOf keyspace page)).eval_eq store
  rw [Store.pageOf] at fetched loaded
  exact (eval_bind_ok fetched).trans (eval_bind_map loaded fun _ => rfl)

theorem eval_findPlanned (plan : Plan) (page : Page) (store : Store) {ids : List Bytes}
    (cut : page.apply (plan.foundUpTo (page.rows.map UInt64.toNat) store) = ids) :
    eval (catalogue.findPlanned keyspace plan page) store =
      ((catalogue.readAll (ids.filterMap (store.get? keyspace))).map fun values =>
        (values, store.missing keyspace ids), store) := by
  have connected : eval (call .connection) store = (.ok (), store) := rfl
  rw [Catalogue.findPlanned]
  refine (eval_bind_ok connected).trans ((eval_bind_ok (eval_collect_eq _ plan store)).trans ?_)
  rw [cut]
  exact (settles_loadAll_fetched catalogue keyspace store ids).eval_eq store

/-- **A query** reads what the ids stand for that are named on its page. -/
theorem Catalogue.eval_findOn (catalogue : Catalogue) (keyspace : Keyspace) (criteria : Criteria)
    (sorting : Option (Sorting Json)) (page : Page) (store : Store) :
    ((catalogue.findIn keyspace criteria sorting page).eval store).1 =
      ((catalogue.namedOn keyspace criteria page store).bind fun ids =>
        catalogue.readAll (ids.filterMap (store.get? keyspace))).map (arranged sorting) := by
  rw [findIn, namedOn]
  split
  · exact eval_arranged (eval_findPage catalogue keyspace page store) sorting
  · have resolved := eval_resolve_eq catalogue keyspace criteria store
    cases planned : catalogue.plan keyspace criteria with
    | error error =>
      rw [planned] at resolved
      exact congrArg Prod.fst (eval_bind_error resolved)
    | ok plan =>
      rw [planned] at resolved
      exact (congrArg Prod.fst (eval_bind_ok resolved)).trans
        (eval_arranged (eval_findPlanned plan page store rfl) sorting)

/-- **A query that is not paged** reads what the named ids stand for. -/
theorem Catalogue.eval_findIn (catalogue : Catalogue) (keyspace : Keyspace) (criteria : Criteria)
    (sorting : Option (Sorting Json)) (store : Store) :
    ((catalogue.findIn keyspace criteria sorting .whole).eval store).1 =
      ((catalogue.named keyspace criteria store).bind fun ids =>
        catalogue.readAll (ids.filterMap (store.get? keyspace))).map (arranged sorting) := by
  rw [eval_findOn, namedOn_whole]

/-- Of ids with their fetched fields, those with fields are kept. -/
theorem map_filter_zip_map (ids : List Bytes) (fieldsOf : Bytes → Fields) :
    ((ids.zip (ids.map fieldsOf)).filter fun (_, fields) => !fields.isEmpty).map Prod.fst =
      ids.filter fun id => !(fieldsOf id).isEmpty := by
  induction ids with
  | nil => rfl
  | cons id ids ih =>
    rw [List.map_cons, List.zip_cons_cons]
    cases bare : (fieldsOf id).isEmpty <;> simp [bare, ih]

theorem eval_stored (keyspace : Keyspace) (ids : List Bytes) (store : Store) :
    eval (Catalogue.stored keyspace ids) store =
      (.ok (ids.filter fun id => !(store.fieldsAt (keyspace.entityKey id)).isEmpty), store) := by
  rw [← map_filter_zip_map ids fun id => store.fieldsAt (keyspace.entityKey id)]
  unfold Catalogue.stored
  split
  · rename_i none
    rw [List.isEmpty_iff.mp none]
    rfl
  · show (Except.ok (((ids.zip ((ids.map keyspace.entityKey).map store.fieldsAt)).filter _).map _),
      store) = _
    rw [List.map_map]
    rfl

theorem eval_countGroup {group : Group} {query : Querying (List Bytes)} {members : List Bytes}
    (asked : eval query store = (.ok members, store)) :
    eval (Catalogue.countGroup keyspace group query) store =
      (.ok (group.tally keyspace store members), store) :=
  (eval_bind_ok asked).trans (eval_bind_ok (eval_stored keyspace group.direct store))

/-- **Counting** adds up both groups of the plan, or takes the size of the registry. -/
theorem Catalogue.eval_countIn (catalogue : Catalogue) (keyspace : Keyspace) (criteria : Criteria)
    (store : Store) :
    ((catalogue.countIn keyspace criteria).eval store).1 =
      catalogue.counted keyspace criteria store := by
  rw [countIn, counted]
  show (eval (if criteria.isEmpty then _ else _) store).1 = _
  split
  · rfl
  · have resolved := eval_resolve_eq catalogue keyspace criteria store
    cases planned : catalogue.plan keyspace criteria with
    | error error =>
      rw [planned] at resolved
      exact congrArg Prod.fst (eval_bind_error resolved)
    | ok plan =>
      rw [planned] at resolved
      have connected : eval (call .connection) store = (.ok (), store) := rfl
      have all : eval (countGroup keyspace plan.all (common plan.all)) store = _ :=
        eval_countGroup eval_common
      have any : eval (countGroup keyspace plan.any (joint plan.any)) store = _ :=
        eval_countGroup eval_joint
      refine (congrArg Prod.fst (eval_bind_ok resolved)).trans ?_
      refine (congrArg Prod.fst (eval_bind_ok connected)).trans ?_
      refine (congrArg Prod.fst (eval_bind_ok all)).trans ?_
      exact congrArg Prod.fst (eval_bind_ok any)

end Evaluation

/-! ## Part 3 — what is returned -/

/-- The id has fields in the store. -/
def Store.hasFields (store : Store) (keyspace : Keyspace) (id : Bytes) : Bool :=
  !(store.fieldsAt (keyspace.entityKey id)).isEmpty

/-- The entity that a store has for an id. -/
def Catalogue.ReadsAt (catalogue : Catalogue) (keyspace : Keyspace) (store : Store) (id : Bytes)
    (value : Json) : Prop :=
  ∃ record, store.get? keyspace id = some record ∧ catalogue.type.read record = .ok value

/-- **A query returns the entities of these ids**, one for each and in this order: of the ids named
on its page they are those with fields. -/
structure Catalogue.Returns (catalogue : Catalogue) (keyspace : Keyspace) (criteria : Criteria)
    (page : Page) (store : Store) (ids : List Bytes) : Prop where
  named : (catalogue.namedOn keyspace criteria page store).map
    (List.filter (store.hasFields keyspace)) = .ok ids
  found : ∃ values, ((catalogue.findIn keyspace criteria none page).eval store).1 = .ok values ∧
    List.Forall₂ (catalogue.ReadsAt keyspace store) ids values

section Results

variable {catalogue : Catalogue} {keyspace : Keyspace} {criteria : Criteria} {page : Page}
  {store : Store} {ids : List Bytes} {id : Bytes} {value : Json}

theorem Store.hasFields_iff :
    store.hasFields keyspace id = true ↔ ∃ record, store.get? keyspace id = some record := by
  rw [hasFields, get?]
  cases (store.fieldsAt (keyspace.entityKey id)).isEmpty <;> simp

theorem Catalogue.exists_readsAt (isOk : (store.get? keyspace id).any fun record =>
      (catalogue.type.read record).isOk) : ∃ value, catalogue.ReadsAt keyspace store id value := by
  obtain ⟨record, held, read⟩ := (Option.any_eq_true ..).mp isOk
  obtain ⟨value, read⟩ := exists_of_isOk read
  exact ⟨value, record, held, read⟩

theorem Catalogue.ReadsAt.hasFields (reads : catalogue.ReadsAt keyspace store id value) :
    store.hasFields keyspace id = true := by
  obtain ⟨record, held, _⟩ := reads
  exact Store.hasFields_iff.mpr ⟨record, held⟩

theorem Catalogue.ReadsAt.read_eq (reads : catalogue.ReadsAt keyspace store id value)
    {record : Record} (held : store.get? keyspace id = some record) :
    catalogue.type.read record = .ok value := by
  obtain ⟨other, here, read⟩ := reads
  cases held.symm.trans here
  exact read

/-- The records of ids are read one for one, those without fields passed over. -/
theorem exists_readAll (readable : ∀ id ∈ ids, ∀ record, store.get? keyspace id = some record →
      ∃ value, catalogue.type.read record = .ok value) :
    ∃ values, catalogue.readAll (ids.filterMap (store.get? keyspace)) = .ok values ∧
      List.Forall₂ (catalogue.ReadsAt keyspace store) (ids.filter (store.hasFields keyspace))
        values := by
  induction ids with
  | nil => exact ⟨[], rfl, .nil⟩
  | cons id ids ih =>
    rw [List.forall_mem_cons] at readable
    obtain ⟨values, read, each⟩ := ih readable.2
    cases held : store.get? keyspace id with
    | none =>
      have bare : ¬ store.hasFields keyspace id := fun filled => by
        obtain ⟨record, some⟩ := Store.hasFields_iff.mp filled
        cases held.symm.trans some
      rw [List.filter_cons_of_neg bare, List.filterMap_cons_none held]
      exact ⟨values, read, each⟩
    | some record =>
      obtain ⟨value, first⟩ := readable.1 record held
      rw [List.filter_cons_of_pos (Store.hasFields_iff.mpr ⟨record, held⟩),
        List.filterMap_cons_some held, readAll_cons_ok first, read]
      exact ⟨value :: values, rfl, .cons ⟨record, held, first⟩ each⟩

/-- **What a query returns**: the named ids with fields, if all of them can be read. -/
theorem Catalogue.returns_of_readable
    (named : catalogue.namedOn keyspace criteria page store = .ok ids)
    (readable : ∀ id ∈ ids, ∀ record, store.get? keyspace id = some record →
      ∃ value, catalogue.type.read record = .ok value) :
    catalogue.Returns keyspace criteria page store (ids.filter (store.hasFields keyspace)) where
  named := by
    rw [named]
    rfl
  found := by
    obtain ⟨values, read, each⟩ := exists_readAll readable
    refine ⟨values, ?_, each⟩
    rw [eval_findOn, named]
    show (catalogue.readAll (ids.filterMap (store.get? keyspace))).map (arranged none) = _
    rw [read]
    rfl

end Results

/-! ## Part 4 — what criteria name -/

/-- What a store has for the ids that criteria name can be read. -/
def Catalogue.Readable (catalogue : Catalogue) (keyspace : Keyspace) (criteria : Criteria)
    (store : Store) : Prop :=
  ∀ ids, catalogue.named keyspace criteria store = .ok ids → ∀ id ∈ ids, ∀ record,
    store.get? keyspace id = some record → ∃ value, catalogue.type.read record = .ok value

section Naming

variable {catalogue : Catalogue} {criteria : Criteria}

theorem Catalogue.readable_of_isOk {keyspace : Keyspace} {store : Store} {ids : List Bytes}
    (named : catalogue.named keyspace criteria store = .ok ids)
    (isOk : ∀ id ∈ ids, (store.get? keyspace id).all fun record =>
      (catalogue.type.read record).isOk) : catalogue.Readable keyspace criteria store := by
  intro others same id listed record held
  cases named.symm.trans same
  have read := isOk id listed
  rw [held, Option.all_some] at read
  exact exists_of_isOk read

/-- Criteria that ask for nothing have no path that could misfit. -/
theorem Criteria.isEmpty_of_misfit {schema : Schema} {error : MappingError}
    (misfit : criteria.misfit? schema = some error) : criteria.isEmpty = false := by
  obtain ⟨all, any, near?⟩ := criteria
  rw [Bool.eq_false_iff]
  intro empty
  simp only [Criteria.isEmpty, Bool.and_eq_true, InsertionSet.isEmpty_iff,
    Option.isNone_iff_eq_none] at empty
  obtain ⟨⟨rfl, rfl⟩, rfl⟩ := empty
  cases misfit

theorem Catalogue.plan_of_misfit (keyspace : Keyspace) {error : MappingError}
    (misfit : criteria.misfit? catalogue.schema = some error) :
    catalogue.plan keyspace criteria = .error (.mapping error) := by
  rw [plan_eq, misfit]
  rfl

theorem Catalogue.plan_of_fits (keyspace : Keyspace)
    (fits : criteria.misfit? catalogue.schema = none) :
    catalogue.plan keyspace criteria = .ok (catalogue.planOf keyspace criteria) := by
  rw [plan_eq, fits]
  rfl

/-- Criteria all of whose paths fit name ids, each once. -/
theorem Catalogue.exists_named (keyspace : Keyspace)
    (fits : criteria.misfit? catalogue.schema = none) (store : Store) :
    ∃ ids, catalogue.named keyspace criteria store = .ok ids ∧ ids.Nodup := by
  rw [named, plan_of_fits keyspace fits]
  split
  · exact ⟨_, rfl, InsertionSet.nodup _⟩
  · exact ⟨_, rfl, InsertionSet.nodup _⟩

/-- **Without a circle a page is cut from all ids** that are named: nothing is asked for less than
whole. -/
theorem Catalogue.namedOn_eq (catalogue : Catalogue) (keyspace : Keyspace)
    (near : criteria.near? = none) (page : Page) (store : Store) :
    catalogue.namedOn keyspace criteria page store =
      (catalogue.named keyspace criteria store).map page.apply := by
  rw [namedOn, named]
  split
  · rfl
  · rw [plan_eq]
    cases criteria.misfit? catalogue.schema with
    | some error => rfl
    | none =>
      have nowhere : (catalogue.planOf keyspace criteria).near? = none := by
        rw [planOf, near]
        rfl
      have same : ∀ limit, (catalogue.planOf keyspace criteria).foundUpTo limit store =
          (catalogue.planOf keyspace criteria).found store := fun limit => by
        rw [Plan.foundUpTo, Plan.found, Plan.closeUpTo, Plan.closeIds, nowhere]
        rfl
      exact congrArg (fun ids => Except.ok (page.apply ids)) (same _)

end Naming

end SecondaryIndex
