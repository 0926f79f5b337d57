/-
**Ids that are skipped, and how many of them are totalled.**

An id on a page that has no fields is skipped. A planned query fetches the fields itself and tells
how many it skipped; where nothing is asked for, the store lists the keyspace and passes over such
ids, and the query tells of none:

* `Querying.Quiet` — only events are seen during a query; closed under sequences, and such a query
  leaves the totals of a session (`Quiet.metrics_run`);
* `Search` — a query for entities, with the ids on its page, those it skips and those it tells of;
* `Session.hold_search` — one search: what it returns and skips makes up its page, and what it tells
  is totalled;
* `Session.Searches` — searches one after the other, and `missing_of_searches` — the total of
  missing entities grows by what those skip that ask for something;
* `strayed_is_not_totalled` — so an id is skipped, and the total stays.
-/

import Mathlib.Algebra.GroupWithZero.Nat
import SecondaryIndex.Proofs.Query.Merging
import SecondaryIndex.Proofs.Query.Registered

namespace SecondaryIndex

/-! ## Part 1 — queries that leave the totals -/

/-- **Only events are seen** during the query, whatever it is answered. -/
inductive Querying.Quiet {α : Type} : Querying α → Prop
  | done (value : α) : Quiet (.done value)
  | fail (error : QueryError) : Quiet (.fail error)
  | report (event : Event) {next : Querying α} (rest : Quiet next) :
    Quiet (.note (.event event) next)
  | ask (request : Request) {next : request.Answer → Querying α}
    (rest : ∀ answer, Quiet (next answer)) : Quiet (.ask request next)

namespace Querying

variable {α β : Type} {query : Querying α} {outcome : Except QueryError α}

theorem Quiet.bind {next : α → Querying β} (first : Quiet query)
    (rest : ∀ value, Quiet (next value)) : Quiet (query.bind next) := by
  induction first with
  | done value => exact rest value
  | fail error => exact .fail error
  | report event _ ih => exact .report event ih
  | ask request _ ih => exact .ask request ih

/-- A query that settles is quiet. -/
theorem Settles.quiet (settles : Settles query outcome) : Quiet query := by
  induction settles with
  | done value => exact .done value
  | fail error => exact .fail error
  | report event _ ih => exact .report event ih

theorem quiet_call (request : Request) : Quiet (call request) :=
  .ask request fun answer => .done answer

theorem quiet_report (event : Event) : Quiet (report event) :=
  .report event (.done ())

/-- Calls leave the totals, also those that fail. -/
theorem metrics_answer (request : Request) (progress : Progress) :
    (Session.answer request progress).2.session.metrics = progress.session.metrics := by
  rw [Session.answer]
  split <;> rfl

/-- **A quiet query leaves the totals of a session.** -/
theorem Quiet.metrics_run (quiet : Quiet query) (progress : Progress) :
    (query.run Session.answer Session.see progress).2.session.metrics =
      progress.session.metrics := by
  induction quiet generalizing progress with
  | done value => rfl
  | fail error => rfl
  | report event _ ih => exact ih (Session.see (.event event) progress)
  | ask request _ ih =>
    have kept := metrics_answer request progress
    rw [Dialogue.run]
    rcases answered : Session.answer request progress with ⟨outcome, after⟩
    rw [answered] at kept
    cases outcome with
    | ok reply => exact (ih reply after).trans kept
    | error error => exact kept

end Querying

namespace Catalogue

open Querying

theorem quiet_collect (plan : Plan) (limit : Option Nat) : Quiet (collect plan limit) := by
  have common : Quiet (common plan.all) := by
    unfold Catalogue.common
    split
    exacts [.done [], quiet_call _]
  have joint : Quiet (joint plan.any) := by
    unfold Catalogue.joint
    split
    exacts [.done [], quiet_call _]
  have close : Quiet (inArea limit plan.near?) := by
    unfold inArea
    split
    exacts [.done [], quiet_call _]
  exact common.bind fun _ => joint.bind fun _ => close.bind fun _ => .done _

theorem quiet_findPage (catalogue : Catalogue) (keyspace : Keyspace) (page : Page) :
    Quiet (catalogue.findPage keyspace page) :=
  (quiet_call _).bind fun records => (quiet_report _).bind fun _ =>
    (catalogue.settles_mapM_load records).quiet.bind fun _ => .done _

theorem quiet_findPlanned (catalogue : Catalogue) (keyspace : Keyspace) (plan : Plan)
    (page : Page) : Quiet (catalogue.findPlanned keyspace plan page) :=
  (quiet_call _).bind fun _ => (quiet_collect plan _).bind fun _ => (quiet_report _).bind fun _ =>
    (quiet_call _).bind fun _ => (catalogue.settles_loadAll keyspace _).quiet

end Catalogue

/-! ## Part 2 — a search -/

/-- A query for entities of a keyspace. -/
structure Search where
  catalogue : Catalogue
  keyspace : Keyspace
  criteria : Criteria
  sorting : Option (Sorting Json)
  page : Page

namespace Search

/-- The search as a query. -/
def query (search : Search) : Querying (List Json) :=
  search.catalogue.findIn search.keyspace search.criteria search.sorting search.page

/-- The ids on the page: of the registry, or of those that the criteria name. -/
def ids (search : Search) (store : Store) : List Bytes :=
  ((search.catalogue.namedOn search.keyspace search.criteria search.page store).toOption).getD []

/-- How many ids on the page have no fields. -/
def skipped (search : Search) (store : Store) : Nat :=
  store.missing search.keyspace (search.ids store)

/-- How many of them are told: all of a planned query, and none where nothing is asked for. -/
def told (search : Search) (store : Store) : Nat :=
  if search.criteria.isEmpty then 0 else search.skipped store

/-- How many of them are not. -/
def untold (search : Search) (store : Store) : Nat :=
  if search.criteria.isEmpty then search.skipped store else 0

/-- The page of the search, not sorted yet, and the number that is told. -/
def paged (search : Search) : Querying (List Json × Nat) :=
  if search.criteria.isEmpty then search.catalogue.findPage search.keyspace search.page
  else do
    let plan ← Plan.resolve search.catalogue.identify search.catalogue.schema search.keyspace
      search.criteria
    search.catalogue.findPlanned search.keyspace plan search.page

/-- A search tells its number behind its page, and sorts it. -/
theorem query_eq (search : Search) :
    search.query = search.paged.bind fun found =>
      .note (.searched search.keyspace found.2) (.done (arranged search.sorting found.1)) := by
  rw [query, Catalogue.findIn, paged]
  split
  · rfl
  · exact (bind_assoc ..).symm

open Querying

theorem quiet_paged (search : Search) : Quiet search.paged := by
  unfold paged
  split
  · exact search.catalogue.quiet_findPage search.keyspace search.page
  · exact (Plan.settles_resolve search.catalogue search.keyspace search.criteria).quiet.bind
      fun plan => search.catalogue.quiet_findPlanned search.keyspace plan search.page

/-- What the page of a search comes to with a store: the ids on it are read, and told of as far as
they were planned. -/
theorem eval_paged (search : Search) (store : Store) :
    eval search.paged store =
      (((search.catalogue.namedOn search.keyspace search.criteria search.page store).bind fun ids =>
        search.catalogue.readAll (ids.filterMap (store.get? search.keyspace))).map
          (·, search.told store), store) := by
  rw [paged, told, skipped, ids, Catalogue.namedOn]
  split
  · exact eval_findPage search.catalogue search.keyspace search.page store
  · have resolved := eval_resolve_eq search.catalogue search.keyspace search.criteria store
    cases planned : search.catalogue.plan search.keyspace search.criteria with
    | error error =>
      rw [planned] at resolved
      exact eval_bind_error resolved
    | ok plan =>
      rw [planned] at resolved
      exact (eval_bind_ok resolved).trans (eval_findPlanned plan search.page store rfl)

/-- Each id has fields, or is missing. -/
theorem length_add_missing (store : Store) (keyspace : Keyspace) (ids : List Bytes) :
    (ids.filterMap (store.get? keyspace)).length + store.missing keyspace ids = ids.length := by
  have parted := bareIds_add_length keyspace
    (ids.zip ((ids.map keyspace.entityKey).map store.fieldsAt))
  rwa [bareIds_fetched, filledRecords_fetched, List.length_zip, List.length_map, List.length_map,
    Nat.min_self, Nat.add_comm] at parted

/-- The entities of a page and the ids that are skipped make it up. -/
theorem of_eval_paged {search : Search} {store : Store} {page : List Json × Nat}
    (found : (eval search.paged store).1 = .ok page) :
    page.2 = search.told store ∧
      page.1.length + search.skipped store = (search.ids store).length := by
  rw [eval_paged] at found
  rw [skipped, ids]
  cases named : search.catalogue.namedOn search.keyspace search.criteria search.page store with
  | error error =>
    rw [named] at found
    cases found
  | ok ids =>
    rw [named] at found
    change (search.catalogue.readAll (ids.filterMap (store.get? search.keyspace))).map _ = _
      at found
    cases read : search.catalogue.readAll (ids.filterMap (store.get? search.keyspace)) with
    | error error =>
      rw [read] at found
      cases found
    | ok values =>
      rw [read] at found
      cases found
      refine ⟨rfl, ?_⟩
      show values.length + store.missing search.keyspace ids = ids.length
      rw [← (readAll_eq_ok_iff.mp read).length_eq, length_add_missing]

end Search

namespace Session

variable {session last : Session} {store : Store} {searches : List Search} {values : List Json}

/-- **A search that succeeds** returns the entities of the ids on its page, but for those that it
skips; the store stays, and what is told is totalled. -/
theorem hold_search (keeps : session.Keeps store) {search : Search}
    (found : (session.hold search.query).1 = .ok values) :
    (session.hold search.query).2.session.Keeps store ∧
      (session.hold search.query).2.session.metrics =
        session.metrics.observe (.searched search.keyspace (search.told store)) ∧
      values.length + search.skipped store = (search.ids store).length := by
  have quiet := search.quiet_paged.metrics_run ⟨session, ⟨[], []⟩⟩
  obtain ⟨outcome, kept⟩ := run_eval search.paged ⟨session, ⟨[], []⟩⟩ keeps
  have stays : (search.paged.eval store).2 = store := by rw [search.eval_paged]
  rw [stays] at kept
  rcases held : search.paged.run answer see ⟨session, ⟨[], []⟩⟩ with ⟨result, progress⟩
  rw [held] at outcome kept quiet
  rw [hold, search.query_eq] at found ⊢
  cases result with
  | error error =>
    rw [Dialogue.run_bind_error held] at found
    cases found
  | ok page =>
    obtain ⟨told, whole⟩ := Search.of_eval_paged outcome.symm
    rw [Dialogue.run_bind_ok held] at found ⊢
    cases found
    refine ⟨⟨kept.backend_eq, kept.refusal_eq⟩, ?_, ?_⟩
    · show progress.session.metrics.observe (.searched search.keyspace page.2) = _
      rw [told, quiet]
    · rw [← whole, arranged]
      cases search.sorting with
      | none => rfl
      | some sorting => rw [Option.elim_some, Sorting.apply, List.length_mergeSort]

/-- **Searches one after the other**, all of which succeed. -/
inductive Searches : Session → List Search → Session → Prop
  | none (session : Session) : Searches session [] session
  | next {session last : Session} {search : Search} {searches : List Search}
    (found : ∃ values, (session.hold search.query).1 = .ok values)
    (rest : Searches (session.hold search.query).2.session searches last) :
    Searches session (search :: searches) last

end Session

/-! ## Part 3 — the total of some searches -/

/-- The numbers of some searches of a keyspace, added up. -/
def sumIn (keyspace : Keyspace) (number : Search → Nat) (searches : List Search) : Nat :=
  ((searches.filter fun search => search.keyspace = keyspace).map number).sum

section Totals

variable {session last : Session} {store : Store} {searches : List Search}

theorem sumIn_cons (keyspace : Keyspace) (number : Search → Nat) (search : Search)
    (searches : List Search) :
    sumIn keyspace number (search :: searches) =
      (if search.keyspace = keyspace then number search else 0) +
        sumIn keyspace number searches := by
  by_cases own : search.keyspace = keyspace
  · rw [sumIn, List.filter_cons_of_pos (by simpa using own), if_pos own]
    rfl
  · rw [sumIn, List.filter_cons_of_neg (by simpa using own), if_neg own, Nat.zero_add]
    rfl

/-- What is skipped is told or not. -/
theorem sumIn_told_add_untold (keyspace : Keyspace) (store : Store) (searches : List Search) :
    sumIn keyspace (·.told store) searches + sumIn keyspace (·.untold store) searches =
      sumIn keyspace (·.skipped store) searches := by
  induction searches with
  | nil => rfl
  | cons search searches ih =>
    have parted : search.told store + search.untold store = search.skipped store := by
      rw [Search.told, Search.untold]
      split <;> simp
    rw [sumIn_cons, sumIn_cons, sumIn_cons, ← ih, ← parted]
    split <;> omega

theorem sumIn_eq_zero_iff {keyspace : Keyspace} {number : Search → Nat} :
    sumIn keyspace number searches = 0 ↔
      ∀ search ∈ searches, search.keyspace = keyspace → number search = 0 := by
  induction searches with
  | nil => exact iff_of_true rfl fun _ listed => nomatch listed
  | cons search searches ih =>
    rw [sumIn_cons, Nat.add_eq_zero_iff, ih, List.forall_mem_cons, ite_eq_right_iff]

/-- What one search tells is totalled under its keyspace. -/
theorem total_hold_search (keeps : session.Keeps store) {search : Search} {values : List Json}
    (found : (session.hold search.query).1 = .ok values) (keyspace : Keyspace) :
    (session.hold search.query).2.session.metrics.total .missingEntities keyspace =
      session.metrics.total .missingEntities keyspace +
        if search.keyspace = keyspace then search.told store else 0 := by
  rw [(Session.hold_search keeps found).2.1, Metrics.total_observe_searched]

/-- **What some searches tell is totalled**; they leave the store, and each returns the entities of
its page but for those that it skips. -/
theorem Session.Searches.total_eq (made : session.Searches searches last)
    (keeps : session.Keeps store) (keyspace : Keyspace) :
    last.metrics.total .missingEntities keyspace =
        session.metrics.total .missingEntities keyspace +
          sumIn keyspace (·.told store) searches ∧
      ∀ search ∈ searches, ∃ values, (search.query.eval store).1 = .ok values ∧
        values.length + search.skipped store = (search.ids store).length := by
  induction made with
  | none session => exact ⟨rfl, fun _ listed => nomatch listed⟩
  | @next session last search searches found rest ih =>
    obtain ⟨values, found⟩ := found
    obtain ⟨kept, _, whole⟩ := hold_search keeps found
    obtain ⟨total, each⟩ := ih kept
    have evaluated := (hold_eval keeps search.query).1.symm.trans found
    refine ⟨?_, List.forall_mem_cons.mpr ⟨⟨values, evaluated, whole⟩, each⟩⟩
    rw [total, total_hold_search keeps found, sumIn_cons, Nat.add_assoc]

/-- **The total of missing entities** after any searches that succeed: it grows by what is skipped
in those that ask for something. So it grows by all that is skipped exactly if those that ask for
nothing skip nothing. -/
theorem missing_of_searches (keeps : session.Keeps store) (made : session.Searches searches last)
    (keyspace : Keyspace) :
    last.metrics.total .missingEntities keyspace =
        session.metrics.total .missingEntities keyspace +
          sumIn keyspace (·.told store) searches ∧
      (last.metrics.total .missingEntities keyspace =
          session.metrics.total .missingEntities keyspace +
            sumIn keyspace (·.skipped store) searches ↔
        ∀ search ∈ searches, search.keyspace = keyspace → search.criteria.isEmpty = true →
          search.skipped store = 0) ∧
      ∀ search ∈ searches, ∃ values, (search.query.eval store).1 = .ok values ∧
        values.length + search.skipped store = (search.ids store).length := by
  obtain ⟨total, each⟩ := made.total_eq keeps keyspace
  have parted := sumIn_told_add_untold keyspace store searches
  have untold : sumIn keyspace (·.untold store) searches = 0 ↔ ∀ search ∈ searches,
      search.keyspace = keyspace → search.criteria.isEmpty = true → search.skipped store = 0 := by
    simp only [sumIn_eq_zero_iff, Search.untold, ite_eq_right_iff]
  refine ⟨total, ?_, each⟩
  rw [← untold, total]
  omega

end Totals

/-- Towns by name, of which one is known by name only, on a page of all of them. -/
def townsByName : Search where
  catalogue := strayTown.catalogue
  keyspace := strayTown.schema.keyspace
  criteria := Criteria.empty.withAny ⟨"id", [.ofString "falme", .ofString "illian"]⟩
  sorting := none
  page := .whole

/-- All towns. -/
def allTowns : Search :=
  { townsByName with criteria := .empty }

/-- Of three ids that are skipped one is not told of. -/
theorem missing_of_searches_towns :
    ∃ last, ((Session.inProcess "memory").performAll strayTown strayActions).Keeps
        (updates strayTown.schema strayActions).store ∧
      ((Session.inProcess "memory").performAll strayTown strayActions).Searches
        [townsByName, allTowns, townsByName] last ∧
      last.metrics.total .missingEntities strayTown.schema.keyspace = 2 ∧
      sumIn strayTown.schema.keyspace
        (·.skipped (updates strayTown.schema strayActions).store)
        [townsByName, allTowns, townsByName] = 3 := by
  have keeps := Session.keeps_performAll strayTown "memory" strayActions
  have made : ((Session.inProcess "memory").performAll strayTown strayActions).Searches
      [townsByName, allTowns, townsByName] _ :=
    .next (exists_of_isOk (by decide +kernel)) (.next (exists_of_isOk (by decide +kernel))
      (.next (exists_of_isOk (by decide +kernel)) (.none _)))
  refine ⟨_, keeps, made, ?_, by decide +kernel⟩
  rw [(missing_of_searches keeps made strayTown.schema.keyspace).1]
  decide +kernel

/-- **A town is skipped and not totalled.** Nothing is stored of it, so a query for everything
returns nothing, and tells of nothing. -/
theorem strayed_is_not_totalled :
    ∃ last, ((Session.inProcess "memory").performAll strayTown [.insert strayed]).Keeps
        (updates strayTown.schema [.insert strayed]).store ∧
      ((Session.inProcess "memory").performAll strayTown [.insert strayed]).Searches
        [allTowns] last ∧
      allTowns.ids (updates strayTown.schema [.insert strayed]).store = [strayed.id.bytes] ∧
      allTowns.skipped (updates strayTown.schema [.insert strayed]).store = 1 ∧
      last.metrics.total .missingEntities strayTown.schema.keyspace ≠
        ((Session.inProcess "memory").performAll strayTown [.insert strayed]).metrics.total
            .missingEntities strayTown.schema.keyspace +
          sumIn strayTown.schema.keyspace
            (·.skipped (updates strayTown.schema [.insert strayed]).store) [allTowns] := by
  exact ⟨_, Session.keeps_performAll strayTown "memory" [.insert strayed],
    .next (exists_of_isOk (by decide +kernel)) (.none _), by decide +kernel, by decide +kernel,
    by decide +kernel⟩

end SecondaryIndex
