/-
**One page after the other, everything is found once.**

Without a circle a page is cut from all ids that criteria name, those without fields included. What
a page returns is read from its ids alone, so pages are put together as lists are:

* `exists_parts` — what pages have is read part by part, or at once;
* `pages_part_the_result` — the pages of so many rows each return, one after the other, what a query
  returns that is not paged; each named id is on one of them, with fields or without.
-/

import SecondaryIndex.Proofs.Page
import SecondaryIndex.Proofs.Query.Evaluation
import SecondaryIndex.Proofs.Query.FullScan

namespace SecondaryIndex

/-! ## Part 1 — records part by part -/

section Parts

variable {catalogue : Catalogue} {keyspace : Keyspace} {store : Store} {ids : List Bytes}
  {rows : UInt64}

theorem readAll_append {records others : List Record} {values held : List Json}
    (read : catalogue.readAll records = .ok values) (after : catalogue.readAll others = .ok held) :
    catalogue.readAll (records ++ others) = .ok (values ++ held) :=
  readAll_eq_ok_iff.mpr
    (List.rel_append (readAll_eq_ok_iff.mp read) (readAll_eq_ok_iff.mp after))

/-- **Pages are read part by part**, and the parts make up what is read at once. -/
theorem exists_parts (readable : ∀ id ∈ ids, ∀ record, store.get? keyspace id = some record →
      ∃ value, catalogue.type.read record = .ok value) (pages : List Page)
    (bounded : ∀ page ∈ pages, page.rows = some rows) :
    ∃ parts, List.Forall₂ (fun page part =>
        catalogue.readAll ((page.apply ids).filterMap (store.get? keyspace)) = .ok part ∧
          part.length ≤ rows.toNat) pages parts ∧
      catalogue.readAll ((pages.flatMap fun page => page.apply ids).filterMap
        (store.get? keyspace)) = .ok parts.flatten := by
  induction pages with
  | nil => exact ⟨[], .nil, rfl⟩
  | cons page pages ih =>
    rw [List.forall_mem_cons] at bounded
    obtain ⟨parts, each, rest⟩ := ih bounded.2
    obtain ⟨part, here, stand⟩ := exists_readAll fun id listed =>
      readable id ((page.apply_sublist ids).subset listed)
    have fits : part.length ≤ rows.toNat :=
      calc part.length = ((page.apply ids).filter (store.hasFields keyspace)).length :=
            stand.length_eq.symm
        _ ≤ (page.apply ids).length := List.length_filter_le ..
        _ ≤ rows.toNat := Page.length_apply_le bounded.1
    refine ⟨part :: parts, .cons ⟨here, fits⟩ each, ?_⟩
    rw [List.flatMap_cons, List.filterMap_append, List.flatten_cons]
    exact readAll_append here rest

end Parts

/-! ## Part 2 — queries without a circle -/

section Paging

variable {catalogue : Catalogue} {keyspace : Keyspace} {criteria : Criteria} {store : Store}
  {ids : List Bytes} {rows : UInt64}

/-- Without a circle a page reads what the ids stand for that are cut from all named ones. -/
theorem eval_findIn_page (near : criteria.near? = none)
    (named : catalogue.named keyspace criteria store = .ok ids) (page : Page) :
    ((catalogue.findIn keyspace criteria none page).eval store).1 =
      catalogue.readAll ((page.apply ids).filterMap (store.get? keyspace)) := by
  rw [Catalogue.eval_findOn, Catalogue.namedOn_eq catalogue keyspace near, named]
  show (catalogue.readAll ((page.apply ids).filterMap (store.get? keyspace))).map
    (arranged none) = _
  cases catalogue.readAll ((page.apply ids).filterMap (store.get? keyspace)) <;> rfl

/-- **Pages part the result.** Criteria without a circle, all of whose paths are declared, name ids,
each once. Let what the store has for them be readable. The pages of so many rows each that start
before the end of these ids return, one after the other, the entities that a query returns that is
not paged, in the same order, and none of them more than its rows; a later page is empty. Each id is
on exactly one of these pages, and a page returns the entities of those of its ids that have
fields. Positions are numbers of 64 bits, and a list that a machine holds is no longer than that. -/
theorem pages_part_the_result (near : criteria.near? = none)
    (resolves : Resolves catalogue.schema (criteria.all.toList ++ criteria.any.toList))
    (positive : 1 ≤ rows.toNat) (readable : catalogue.Readable keyspace criteria store) :
    ∃ ids values, catalogue.named keyspace criteria store = .ok ids ∧ ids.Nodup ∧
      ((catalogue.findIn keyspace criteria none .whole).eval store).1 = .ok values ∧
      (ids.length < UInt64.size →
        (∃ parts, List.Forall₂ (fun page part =>
            ((catalogue.findIn keyspace criteria none page).eval store).1 = .ok part ∧
              part.length ≤ rows.toNat) (Page.tiling rows ids.length) parts ∧
          parts.flatten = values) ∧
        (∀ page ∈ Page.tiling rows ids.length,
          catalogue.namedOn keyspace criteria page store = .ok (page.apply ids) ∧
          catalogue.Returns keyspace criteria page store
            ((page.apply ids).filter (store.hasFields keyspace))) ∧
        (∀ id ∈ ids, ∃! page, page ∈ Page.tiling rows ids.length ∧ id ∈ page.apply ids) ∧
        ∀ page : Page, ids.length ≤ page.offset.toNat →
          ((catalogue.findIn keyspace criteria none page).eval store).1 = .ok []) := by
  have fits := Criteria.misfit?_eq_none near resolves
  obtain ⟨ids, named, nodup⟩ := catalogue.exists_named keyspace fits store
  have reads := readable ids named
  have cut := eval_findIn_page near named
  have namedOn (page : Page) :
      catalogue.namedOn keyspace criteria page store = .ok (page.apply ids) := by
    rw [Catalogue.namedOn_eq catalogue keyspace near, named]
    rfl
  obtain ⟨values, whole, _⟩ := exists_readAll reads
  refine ⟨ids, values, named, nodup, ?_, fun few => ⟨?_, fun page _ => ⟨namedOn page, ?_⟩,
    fun id listed => Page.existsUnique_of_mem positive few nodup listed, fun page behind => ?_⟩⟩
  · rw [cut, apply_whole, whole]
  · obtain ⟨parts, each, joined⟩ := exists_parts reads (Page.tiling rows ids.length)
      fun page => Page.rows_of_mem_tiling positive
    rw [Page.flatMap_tiling positive few, whole] at joined
    exact ⟨parts, by simpa only [cut] using each, (Except.ok.inj joined).symm⟩
  · exact Catalogue.returns_of_readable (namedOn page) fun id listed =>
      reads id ((page.apply_sublist ids).subset listed)
  · rw [cut, Page.apply_eq_nil behind]
    rfl

end Paging

theorem named_town :
    town.catalogue.named town.schema.keyspace townCriteria
        (updates town.schema townActions).store =
      .ok (["illian", "tear", "cairhien"].map Bytes.ofString) := by
  decide +kernel

theorem readable_town : town.catalogue.Readable town.schema.keyspace townCriteria
    (updates town.schema townActions).store :=
  Catalogue.readable_of_isOk named_town (by decide +kernel)

/-- Two pages have the three towns that are named, and the last one is gone. -/
theorem pages_part_the_result_town :
    townCriteria.near? = none ∧
      Resolves town.schema (townCriteria.all.toList ++ townCriteria.any.toList) ∧
      1 ≤ (2 : UInt64).toNat ∧
      town.catalogue.Readable town.schema.keyspace townCriteria
        (updates town.schema townActions).store ∧
      ∃ values part last,
        ((town.catalogue.findIn town.schema.keyspace townCriteria none .whole).eval
          (updates town.schema townActions).store).1 = .ok values ∧
        ((town.catalogue.findIn town.schema.keyspace townCriteria none (.ofBounds 0 2)).eval
          (updates town.schema townActions).store).1 = .ok part ∧
        ((town.catalogue.findIn town.schema.keyspace townCriteria none (.ofBounds 2 2)).eval
          (updates town.schema townActions).store).1 = .ok last ∧
        part ++ last = values := by
  have resolves : Resolves town.schema (townCriteria.all.toList ++ townCriteria.any.toList) :=
    fun predicate asked => plain_town.resolves predicate (List.mem_append.mp asked)
  have positive : 1 ≤ (2 : UInt64).toNat := by decide
  obtain ⟨ids, values, named, _, whole, paged⟩ :=
    @pages_part_the_result town.catalogue _ _ _ 2 rfl resolves positive readable_town
  cases named_town.symm.trans named
  obtain ⟨⟨parts, each, joined⟩, _⟩ := paged (by decide)
  have pages : Page.tiling 2 3 = [.ofBounds 0 2, .ofBounds 2 2] := by decide
  rw [List.length_map, show ["illian", "tear", "cairhien"].length = 3 from rfl, pages] at each
  obtain _ | ⟨first, _ | ⟨second, _ | _⟩⟩ := each
  refine ⟨rfl, resolves, positive, readable_town, values, _, _, whole, first.1, second.1, ?_⟩
  rw [← joined]
  simp

end SecondaryIndex
