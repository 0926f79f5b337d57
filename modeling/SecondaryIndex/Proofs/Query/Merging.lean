/-
**What a query makes of what it is answered, whatever that is.**

A store that obliges answers each call, with any ids and any fields. A query merges the ids of its
look-ups with those that its criteria name, cuts a page of them, fetches their fields, and reads
them:

* `Plan.merged` — the ids of a plan and of the replies to it, each where it comes first, and
  `Plan.lookUps` — the calls that were replied to;
* `held_collect`, `held_findPlanned` — ids are collected and entities found from the replies alone;
* `Catalogue.Presents` — records are returned as entities, or one of them cannot be read, and ids
  without fields are totalled;
* `merged_paged_fetched` — so a query presents the ids on its page of the merged ones that have
  fields, in their order, and fetches no others.
-/

import SecondaryIndex.Proofs.Collections
import SecondaryIndex.Proofs.Page
import SecondaryIndex.Proofs.Query.Courses
import SecondaryIndex.Proofs.Query.FullScan

namespace SecondaryIndex

/-! ## Part 1 — stores that oblige -/

/-- **The store answers all calls**, with whatever ids, and with fields for each key that is asked
for. -/
structure Answerer.Obliging {σ : Type} (answerer : Answerer σ) : Prop where
  answers : ∀ request state, ∃ reply after, answerer request state = (.ok reply, after)
  fields : ∀ keys state fetched after, answerer (.fieldsOf keys) state = (.ok fetched, after) →
    fetched.length = keys.length

/-- The keys at which a call asks for fields. -/
def Turn.fetchedKeys (turn : Turn) : List Bytes :=
  match turn.request with
  | .fieldsOf keys => keys
  | _ => []

/-- The course some answered calls later. -/
def Course.after {σ : Type} (course : Course σ) (state : σ) (turns : List Turn) : Course σ :=
  { course with state := state, turns := course.turns ++ turns }

namespace Course

variable {σ : Type}

theorem after_nil (course : Course σ) : course.after course.state [] = course := by
  rw [after, List.append_nil]

theorem after_after (course : Course σ) (state last : σ) (turns more : List Turn) :
    (course.after state turns).after last more = course.after last (turns ++ more) := by
  rw [after, after, after, List.append_assoc]

end Course

/-- What a plan was answered; nothing, where nothing was asked. -/
structure Replies where
  common : List Bytes
  joint : List Bytes
  close : List Bytes

namespace Plan

/-- The ids of the replies and of the plan, each where it comes first. -/
def merged (plan : Plan) (replies : Replies) : List Bytes :=
  (replies.common ++ plan.all.direct ++ replies.joint ++ plan.any.direct ++ replies.close).eraseDups

/-- The look-ups of a plan and the replies to them. -/
def lookUps (limit : Option Nat) (plan : Plan) (replies : Replies) : List Turn :=
  (if plan.all.keys = [] then [] else [⟨.intersect plan.all.keys, .ok replies.common⟩]) ++
    (if plan.any.keys = [] then [] else [⟨.union plan.any.keys, .ok replies.joint⟩]) ++
    plan.near?.elim [] fun area => [⟨.within area.key area.circle limit, .ok replies.close⟩]

/-- There are no replies but to look-ups. -/
structure Replied (plan : Plan) (replies : Replies) : Prop where
  common : plan.all.keys = [] → replies.common = []
  joint : plan.any.keys = [] → replies.joint = []
  close : plan.near? = none → replies.close = []

theorem fetchedKeys_lookUps (limit : Option Nat) (plan : Plan) (replies : Replies) :
    (plan.lookUps limit replies).flatMap Turn.fetchedKeys = [] := by
  rw [lookUps]
  cases plan.near? <;> split_ifs <;> rfl

theorem nodup_merged (plan : Plan) (replies : Replies) : (plan.merged replies).Nodup := by
  rw [merged, ← InsertionSet.toList_ofList_eq_eraseDups]
  exact InsertionSet.nodup _

end Plan

section Stages

variable {σ : Type} {answerer : Answerer σ} {catalogue : Catalogue} {keyspace : Keyspace}

open Querying

theorem held_call (obliging : answerer.Obliging) (request : Request) (course : Course σ) :
    ∃ reply state, answerer request course.state = (.ok reply, state) ∧
      (call request).held answerer course =
        (.ok reply, course.after state [⟨request, .ok reply⟩]) := by
  obtain ⟨reply, state, answered⟩ := obliging.answers request course.state
  exact ⟨reply, state, answered, held_ask_ok answered .done⟩

/-- Without keys nothing is asked. -/
theorem held_unless_nil {keys : List Bytes} {asked : Querying (List Bytes)}
    {turn : List Bytes → Turn} {course : Course σ}
    (holds : ∃ reply state, asked.held answerer course =
      (.ok reply, course.after state [turn reply])) :
    ∃ reply state, Querying.held (if keys.isEmpty then .done [] else asked) answerer course =
        (.ok reply, course.after state (if keys = [] then [] else [turn reply])) ∧
      (keys = [] → reply = []) := by
  by_cases none : keys = []
  · refine ⟨[], course.state, ?_, fun _ => rfl⟩
    rw [if_pos (List.isEmpty_iff.mpr none), if_pos none, course.after_nil]
    rfl
  · obtain ⟨reply, state, held⟩ := holds
    refine ⟨reply, state, ?_, fun empty => absurd empty none⟩
    rw [if_neg fun empty => none (List.isEmpty_iff.mp empty), if_neg none, held]

theorem held_common (obliging : answerer.Obliging) (group : Group) (course : Course σ) :
    ∃ reply state, (Catalogue.common group).held answerer course = (.ok reply, course.after state
        (if group.keys = [] then [] else [⟨.intersect group.keys, .ok reply⟩])) ∧
      (group.keys = [] → reply = []) := by
  obtain ⟨reply, state, _, held⟩ := held_call obliging (.intersect group.keys) course
  exact held_unless_nil ⟨reply, state, held⟩

theorem held_joint (obliging : answerer.Obliging) (group : Group) (course : Course σ) :
    ∃ reply state, (Catalogue.joint group).held answerer course = (.ok reply, course.after state
        (if group.keys = [] then [] else [⟨.union group.keys, .ok reply⟩])) ∧
      (group.keys = [] → reply = []) := by
  obtain ⟨reply, state, _, held⟩ := held_call obliging (.union group.keys) course
  exact held_unless_nil ⟨reply, state, held⟩

theorem held_inArea (obliging : answerer.Obliging) (limit : Option Nat) (near? : Option Area)
    (course : Course σ) :
    ∃ reply state, (Catalogue.inArea limit near?).held answerer course =
        (.ok reply, course.after state
          (near?.elim [] fun area => [⟨.within area.key area.circle limit, .ok reply⟩])) ∧
      (near? = none → reply = []) := by
  cases near? with
  | none =>
    refine ⟨[], course.state, ?_, fun _ => rfl⟩
    rw [Option.elim_none, course.after_nil]
    rfl
  | some area =>
    obtain ⟨reply, state, _, held⟩ :=
      held_call obliging (.within area.key area.circle limit) course
    exact ⟨reply, state, held, nofun⟩

/-- **Ids are collected** from the replies and from the plan. -/
theorem held_collect (obliging : answerer.Obliging) (plan : Plan) (limit : Option Nat)
    (course : Course σ) :
    ∃ replies state, plan.Replied replies ∧
      (Catalogue.collect plan limit).held answerer course =
        (.ok (plan.merged replies), course.after state (plan.lookUps limit replies)) := by
  obtain ⟨common, first, heldCommon, noCommon⟩ := held_common obliging plan.all course
  obtain ⟨joint, second, heldJoint, noJoint⟩ := held_joint obliging plan.any (course.after first _)
  obtain ⟨close, last, heldClose, noClose⟩ :=
    held_inArea obliging limit plan.near? ((course.after first _).after second _)
  refine ⟨⟨common, joint, close⟩, last, ⟨noCommon, noJoint, noClose⟩, ?_⟩
  refine (held_bind_ok heldCommon).trans ((held_bind_ok heldJoint).trans
    ((held_bind_ok heldClose).trans ?_))
  rw [Course.after_after, Course.after_after, Plan.merged, Plan.lookUps,
    ← InsertionSet.toList_ofList_eq_eraseDups, List.append_assoc _ joint,
    List.append_assoc (ite ..)]
  rfl

/-- **A page of entities is found** from the replies alone: of the merged ids, those on the page are
fetched, and what was fetched is read. -/
theorem held_findPlanned (obliging : answerer.Obliging) (catalogue : Catalogue)
    (keyspace : Keyspace) (plan : Plan) (page : Page) (course : Course σ) :
    ∃ replies fetched state, plan.Replied replies ∧
      fetched.length = (page.apply (plan.merged replies)).length ∧
      (catalogue.findPlanned keyspace plan page).held answerer course =
        ((catalogue.readAll (filledRecords keyspace
            ((page.apply (plan.merged replies)).zip fetched))).map
              (·, bareIds ((page.apply (plan.merged replies)).zip fetched)),
          course.after state (⟨.connection, .ok ()⟩ ::
            (plan.lookUps (page.rows.map UInt64.toNat) replies ++
              [⟨.fieldsOf ((page.apply (plan.merged replies)).map keyspace.entityKey),
                .ok fetched⟩]))) := by
  obtain ⟨_, opened, _, connected⟩ := held_call obliging .connection course
  obtain ⟨replies, looked, replied, collected⟩ :=
    held_collect obliging plan (page.rows.map UInt64.toNat) (course.after opened _)
  obtain ⟨fetched, state, answered, fetching⟩ := held_call obliging
    (.fieldsOf ((page.apply (plan.merged replies)).map keyspace.entityKey))
    ((course.after opened _).after looked _)
  have length := obliging.fields _ _ _ _ answered
  rw [List.length_map] at length
  refine ⟨replies, fetched, state, replied, length, ?_⟩
  refine (held_bind_ok connected).trans ((held_bind_ok collected).trans
    ((held_bind_ok fetching).trans ?_))
  rw [(catalogue.settles_loadAll keyspace _).held_eq, Course.after_after, Course.after_after]
  rfl

/-- A page of a keyspace is found from the reply alone. -/
theorem held_findPage (obliging : answerer.Obliging) (catalogue : Catalogue) (keyspace : Keyspace)
    (page : Page) (course : Course σ) :
    ∃ records state, (catalogue.findPage keyspace page).held answerer course =
      ((catalogue.readAll records).map (·, 0),
        course.after state [⟨.pageOf keyspace page, .ok records⟩]) := by
  obtain ⟨records, state, _, listed⟩ := held_call obliging (.pageOf keyspace page) course
  have reading := (catalogue.settles_mapM_load records).map
    fun values => .done (values, 0)
  exact ⟨records, state, (held_bind_ok listed).trans (reading.held_eq _ _)⟩

end Stages

/-! ## Part 3 — what a query returns and totals -/

theorem Metrics.total_add (metrics : Metrics) (counter other : Counter) (keyspace place : Keyspace)
    (amount : Nat) :
    (metrics.add counter keyspace amount).total other place =
      metrics.total other place + if (other, place) = (counter, keyspace) then amount else 0 := by
  rw [add]
  by_cases none : amount = 0
  · rw [if_pos none, none, ite_self, Nat.add_zero]
  · rw [if_neg none, total, InsertionMap.get?_insert, total]
    by_cases here : (other, place) = (counter, keyspace)
    · rw [if_pos here, if_pos here, Option.getD_some, total, here]
    · rw [if_neg here, if_neg here, Nat.add_zero]
      rfl

/-- A query for entities totals the ids without fields, under its own keyspace. -/
theorem Metrics.total_observe_searched (metrics : Metrics) (keyspace place : Keyspace)
    (missing : Nat) :
    (metrics.observe (.searched keyspace missing)).total .missingEntities place =
      metrics.total .missingEntities place + if keyspace = place then missing else 0 := by
  rw [observe, total_add, total_add, total_add]
  simp [eq_comm]

theorem Metrics.total_searched (metrics : Metrics) (keyspace : Keyspace) (missing : Nat) :
    (metrics.observe (.searched keyspace missing)).total .missingEntities keyspace =
      metrics.total .missingEntities keyspace + missing := by
  rw [total_observe_searched, if_pos rfl]

/-- **What a query makes of records.** It fails exactly if one of them cannot be read. Otherwise it
returns the entity of each, in their order, and totals so many ids as missing. -/
structure Catalogue.Presents (catalogue : Catalogue) (keyspace : Keyspace) (records : List Record)
    (missing : Nat) (outcome : Except QueryError (List Json)) (metrics : Metrics) : Prop where
  fails : (∃ error, outcome = .error error) ↔
    ∃ record ∈ records, ∃ reason, catalogue.type.read record = .error reason
  returns : ∀ values, outcome = .ok values →
    List.Forall₂ (fun record value => catalogue.type.read record = .ok value) records values ∧
      metrics.total .missingEntities keyspace = missing

section Results

variable {σ : Type} {answerer : Answerer σ} {catalogue : Catalogue} {criteria : Criteria}

open Querying

/-- At its end a query presents the records that were read. -/
theorem held_searched (keyspace : Keyspace) {query : Querying (List Json × Nat)}
    {records : List Record} {missing : Nat} {state after : σ} {turns : List Turn}
    (found : query.held answerer (.start state) =
      ((catalogue.readAll records).map (·, missing), (Course.start state).after after turns)) :
    ∃ outcome course, Querying.held (query.bind fun found =>
        .note (.searched keyspace found.2) (.done (arranged none found.1)))
          answerer (.start state) = (outcome, course) ∧
      course.turns = turns ∧
      catalogue.Presents keyspace records missing outcome course.metrics := by
  cases read : catalogue.readAll records with
  | error error =>
    rw [read] at found
    exact ⟨.error error, _, held_bind_error found, rfl,
      ⟨iff_of_true ⟨error, rfl⟩ (readAll_fails_iff.mp ⟨error, read⟩), nofun⟩⟩
  | ok values =>
    rw [read] at found
    refine ⟨.ok values, _, held_bind_ok found, rfl, ?_, fun others same => ?_⟩
    · rw [← readAll_fails_iff, read]
    · cases same
      exact ⟨readAll_eq_ok_iff.mp read,
        (Metrics.total_searched .empty keyspace missing).trans (Nat.zero_add missing)⟩

/-- **Merged, paged and fetched.** Let a store oblige that is known for nothing else, and let all
paths of some criteria fit. If they ask for something, their ids are those of the replies and of the
plan, each where it comes first, and a page is cut from these. The fields of the ids on the page are
fetched, and nothing else is asked; those that have fields are records, which are read in their
order. Entities and missing ids make up the page. If nothing is asked for, a page of the keyspace is
asked for instead and its records are read. -/
theorem merged_paged_fetched (obliging : answerer.Obliging)
    (resolves : Resolves catalogue.schema (criteria.all.toList ++ criteria.any.toList))
    (located : ∀ near, criteria.near? = some near →
      ∃ property, catalogue.schema.resolveGeo near.path = .ok property)
    (keyspace : Keyspace) (page : Page) (state : σ) :
    ∃ outcome course,
      (catalogue.findIn keyspace criteria none page).held answerer (.start state) =
        (outcome, course) ∧
      (criteria.isEmpty = false → ∃ replies ids fetched,
        (catalogue.planOf keyspace criteria).Replied replies ∧
        ids = page.apply ((catalogue.planOf keyspace criteria).merged replies) ∧
        ids.Nodup ∧ course.turns.flatMap Turn.fetchedKeys = ids.map keyspace.entityKey ∧
        fetched.length = ids.length ∧ course.turns = ⟨.connection, .ok ()⟩ ::
          ((catalogue.planOf keyspace criteria).lookUps (page.rows.map UInt64.toNat) replies ++
            [⟨.fieldsOf (ids.map keyspace.entityKey), .ok fetched⟩]) ∧
        catalogue.Presents keyspace (filledRecords keyspace (ids.zip fetched))
          (bareIds (ids.zip fetched)) outcome course.metrics ∧
        ∀ values, outcome = .ok values →
          (∀ rows, page.rows = some rows → values.length ≤ rows.toNat) ∧
          values.length + course.metrics.total .missingEntities keyspace = ids.length) ∧
      (criteria.isEmpty = true → ∃ records,
        course.turns = [⟨.pageOf keyspace page, .ok records⟩] ∧
        catalogue.Presents keyspace records 0 outcome course.metrics) := by
  have fits : criteria.misfit? catalogue.schema = none :=
    Criteria.misfit?_eq_none_iff.mpr ⟨resolves, located⟩
  cases empty : criteria.isEmpty with
  | true =>
    obtain ⟨records, after, found⟩ :=
      held_findPage obliging catalogue keyspace page (.start state)
    obtain ⟨outcome, course, held, turns, presents⟩ := held_searched keyspace found
    refine ⟨outcome, course, ?_, fun some => Bool.noConfusion some,
      fun _ => ⟨records, turns, presents⟩⟩
    rw [Catalogue.findIn, empty, if_pos rfl]
    exact held
  | false =>
    obtain ⟨replies, fetched, after, replied, length, found⟩ := held_findPlanned obliging catalogue
      keyspace (catalogue.planOf keyspace criteria) page (.start state)
    obtain ⟨outcome, course, held, turns, presents⟩ := held_searched keyspace found
    refine ⟨outcome, course, ?_, fun _ => ⟨replies, _, fetched, replied, rfl, ?_, ?_, length,
      turns, presents, fun values returned => ?_⟩, fun none => Bool.noConfusion none⟩
    · rw [Catalogue.findIn_eq empty]
      exact (held_bind_ok ((Plan.settles_of_fits fits keyspace).held_eq _ _)).trans held
    · exact (Plan.nodup_merged _ replies).sublist (page.apply_sublist _)
    · rw [turns, List.flatMap_cons, List.flatMap_append, Plan.fetchedKeys_lookUps,
        List.flatMap_singleton]
      rfl
    · obtain ⟨each, total⟩ := presents.returns values returned
      have parted := bareIds_add_length keyspace
        ((page.apply ((catalogue.planOf keyspace criteria).merged replies)).zip fetched)
      rw [List.length_zip, length, Nat.min_self, each.length_eq, ← total, Nat.add_comm] at parted
      refine ⟨fun rows bounded => ?_, parted⟩
      calc values.length ≤ _ := Nat.le_of_add_right_le (Nat.le_of_eq parted)
        _ ≤ rows.toNat := Page.length_apply_le bounded

end Results

/-- A store with some towns that repeats itself, and mentions a town that it does not have. -/
def repeating : Answerer Unit := fun request state => (.ok (match request with
  | .intersect _ => ["illian", "falme", "illian"].map Bytes.ofString
  | other => (updates town.schema townActions).store.reply other), state)

theorem obliging_repeating : repeating.Obliging where
  answers _ state := ⟨_, state, rfl⟩
  fields keys state fetched after answered := by
    cases answered
    exact List.length_map _

/-- Two of four towns are on the page, and one of them is missing. -/
theorem merged_paged_fetched_repeating :
    repeating.Obliging ∧
      Resolves town.schema (townCriteria.all.toList ++ townCriteria.any.toList) ∧
      (∀ near, townCriteria.near? = some near →
        ∃ property, town.schema.resolveGeo near.path = .ok property) ∧
      townCriteria.isEmpty = false ∧
      ∃ value course, (town.catalogue.findIn town.schema.keyspace townCriteria none
          (.ofBounds 1 2)).held repeating (.start ()) = (.ok [value], course) ∧
        course.turns.flatMap Turn.fetchedKeys = ["towns:falme", "towns:tear"].map Bytes.ofString ∧
        1 + course.metrics.total .missingEntities town.schema.keyspace = 2 := by
  have resolves : Resolves town.schema (townCriteria.all.toList ++ townCriteria.any.toList) :=
    fun predicate asked => plain_town.resolves predicate (List.mem_append.mp asked)
  have located : ∀ near, townCriteria.near? = some near →
      ∃ property, town.schema.resolveGeo near.path = .ok property := nofun
  have one : ((town.catalogue.findIn town.schema.keyspace townCriteria none
      (.ofBounds 1 2)).held repeating (.start ())).1.map List.length = .ok 1 := by decide +kernel
  have keys : ((town.catalogue.findIn town.schema.keyspace townCriteria none
      (.ofBounds 1 2)).held repeating (.start ())).2.turns.flatMap Turn.fetchedKeys =
        ["towns:falme", "towns:tear"].map Bytes.ofString := by decide +kernel
  obtain ⟨outcome, course, held, some, _⟩ := @merged_paged_fetched Unit repeating town.catalogue
    townCriteria obliging_repeating resolves located town.schema.keyspace (.ofBounds 1 2) ()
  obtain ⟨_, ids, _, _, _, _, asked, _, _, _, totals⟩ := some rfl
  rw [held] at one keys
  cases outcome with
  | error error => cases one
  | ok values =>
    obtain ⟨value, rfl⟩ := List.length_eq_one_iff.mp (Except.ok.inj one)
    have two : ids.length = 2 := by
      rw [← List.length_map town.schema.keyspace.entityKey, ← asked, keys]
      rfl
    exact ⟨obliging_repeating, resolves, located, rfl, value, course, held, keys,
      two ▸ (totals _ rfl).2⟩

/-- Towns in Illian of which the id is tear. -/
def tearCriteria : Criteria :=
  (Criteria.empty.withAll ⟨"id", [.ofString "tear"]⟩).withAll ⟨"land", [.ofString "illian"]⟩

/-- An id that is to be met beside another predicate is named by the criteria, but it is not fetched
unless index sets have it; and where nothing is asked for, entities are returned of which no fields
were fetched. -/
theorem tear_is_not_fetched :
    (["illian", "falme", "illian"].map Bytes.ofString ++
        town.catalogue.idsAsked tearCriteria.all.toList).eraseDups =
          ["illian", "falme", "tear"].map Bytes.ofString ∧
      ((town.catalogue.findIn town.schema.keyspace tearCriteria none .whole).held repeating
          (.start ())).2.turns.flatMap Turn.fetchedKeys =
        ["towns:illian", "towns:falme"].map Bytes.ofString ∧
      ((town.catalogue.findIn town.schema.keyspace .empty none .whole).held repeating
          (.start ())).1.map List.length = .ok 2 ∧
      ((town.catalogue.findIn town.schema.keyspace .empty none .whole).held repeating
          (.start ())).2.turns.flatMap Turn.fetchedKeys = [] := by
  decide +kernel

end SecondaryIndex
