/-
**Pages of what is near.**

The rows of a page bound the look-up of a circle, and only then are items skipped. So of a page that
skips some there are too few left:

* `Store.exists_perm_within` — a bounded look-up takes the first of what is within a circle, in one
  order for all bounds;
* `returns_near_whole` and `returns_near_page` — what a query for a circle returns, and what a page
  of it;
* `page_of_near_complete_iff` — a page has as many entities as it should have only if it skips
  nothing or everything, or if all there are fit on one page.
-/

import SecondaryIndex.Proofs.Collections
import SecondaryIndex.Proofs.Page
import SecondaryIndex.Proofs.Query.Evaluation
import SecondaryIndex.Proofs.Query.FullScan

namespace SecondaryIndex

/-! ## Part 1 — look-ups of circles -/

namespace Store

/-- **A bounded look-up** takes the first of the members within the circle, in one order of them for
all bounds. -/
theorem exists_perm_within (store : Store) (key : Bytes) (circle : Circle) :
    ∃ ordered : List Bytes, ordered.Perm (store.within key circle none) ∧
      ∀ count, store.within key circle (some count) = ordered.take count :=
  ⟨_, (List.mergeSort_perm ..).map Prod.fst, fun _ => List.map_take ..⟩

theorem length_within (store : Store) (key : Bytes) (circle : Circle) (count : Nat) :
    (store.within key circle (some count)).length =
      min count (store.within key circle none).length := by
  obtain ⟨ordered, perm, bound⟩ := store.exists_perm_within key circle
  rw [bound, List.length_take, perm.length_eq]

theorem within_subset (store : Store) (key : Bytes) (circle : Circle) (limit : Option Nat) :
    store.within key circle limit ⊆ store.within key circle none := by
  obtain ⟨ordered, perm, bound⟩ := store.exists_perm_within key circle
  cases limit with
  | none => exact List.Subset.refl _
  | some count =>
    rw [bound]
    exact List.Subset.trans (List.take_subset ..) perm.subset

/-- No member has two positions. -/
theorem nodup_within (store : Store) (key : Bytes) (circle : Circle) (limit : Option Nat) :
    (store.within key circle limit).Nodup := by
  have all : (store.within key circle none).Nodup := by
    have members : ((measured circle.center (store.positionsAt key)).map Prod.fst).Nodup := by
      rw [measured, List.map_map]
      exact (store.positionsAt key).nodup
    exact members.sublist (List.filter_sublist.map Prod.fst)
  obtain ⟨ordered, perm, bound⟩ := store.exists_perm_within key circle
  cases limit with
  | none => exact all
  | some count =>
    rw [bound]
    exact (perm.nodup_iff.mpr all).sublist (List.take_sublist ..)

end Store

/-! ## Part 2 — queries for what is near -/

/-- Everything that has a position for the path has an entity. -/
def Catalogue.BacksPlaces (catalogue : Catalogue) (keyspace : Keyspace) (path : String)
    (store : Store) : Prop :=
  ∀ id point, store.position? (keyspace.geoKey path) id = some point →
    ∃ value, catalogue.ReadsAt keyspace store id value

section Circles

variable {catalogue : Catalogue} {keyspace : Keyspace} {store : Store} {near : Near}
  {property : Property} {page : Page} {rows : UInt64}

theorem plan_near (located : catalogue.schema.resolveGeo near.path = .ok property) :
    catalogue.plan keyspace (Criteria.empty.withNear near) =
      .ok ⟨⟨[], []⟩, ⟨[], []⟩, some ⟨keyspace.geoKey near.path, near.circle⟩⟩ :=
  Catalogue.plan_eq_ok rfl rfl (eval_resolveNear located)

/-- **A query for a circle** returns what is on its page of what a look-up finds that is bounded by
the rows of the page. -/
theorem returns_near (page : Page)
    (located : catalogue.schema.resolveGeo near.path = .ok property)
    (backed : catalogue.BacksPlaces keyspace near.path store) :
    catalogue.Returns keyspace (Criteria.empty.withNear near) page store
      (page.apply (store.within (keyspace.geoKey near.path) near.circle
        (page.rows.map UInt64.toNat))) := by
  generalize close : store.within (keyspace.geoKey near.path) near.circle
    (page.rows.map UInt64.toNat) = ids
  have names : catalogue.namedOn keyspace (Criteria.empty.withNear near) page store =
      .ok (page.apply ids) := by
    have found : Plan.foundUpTo (page.rows.map UInt64.toNat) store
        ⟨⟨[], []⟩, ⟨[], []⟩, some ⟨keyspace.geoKey near.path, near.circle⟩⟩ = ids := by
      rw [Plan.foundUpTo, Plan.closeUpTo, Option.elim_some, close]
      exact InsertionSet.toList_ofList (close ▸ store.nodup_within ..)
    rw [Catalogue.namedOn, Criteria.isEmpty_withNear, if_neg Bool.false_ne_true, plan_near located,
      Except.map, found]
  have reads : ∀ id ∈ page.apply ids, ∃ value, catalogue.ReadsAt keyspace store id value := by
    intro id listed
    have member : id ∈ store.within (keyspace.geoKey near.path) near.circle none :=
      store.within_subset _ _ _ (close ▸ (page.apply_sublist ids).subset listed)
    obtain ⟨point, held, _⟩ := Store.mem_within.mp member
    exact backed id point held
  have filled : (page.apply ids).filter (store.hasFields keyspace) = page.apply ids := by
    refine List.filter_eq_self.mpr fun id listed => ?_
    obtain ⟨value, here⟩ := reads id listed
    exact here.hasFields
  rw [← filled]
  exact Catalogue.returns_of_readable names fun id listed record held =>
    (reads id listed).imp fun _ here => here.read_eq held

/-- A query that is not paged returns all that is within the circle. -/
theorem returns_near_whole (located : catalogue.schema.resolveGeo near.path = .ok property)
    (backed : catalogue.BacksPlaces keyspace near.path store) :
    catalogue.Returns keyspace (Criteria.empty.withNear near) .whole store
      (store.within (keyspace.geoKey near.path) near.circle none) := by
  have returned := returns_near .whole located backed
  rwa [apply_whole] at returned

/-- A page of what is near is what a look-up of as many as it has rows finds, but for what it
skips. -/
theorem returns_near_page (located : catalogue.schema.resolveGeo near.path = .ok property)
    (backed : catalogue.BacksPlaces keyspace near.path store) (bounded : page.rows = some rows) :
    catalogue.Returns keyspace (Criteria.empty.withNear near) page store
      ((store.within (keyspace.geoKey near.path) near.circle (some rows.toNat)).drop
        page.offset.toNat) := by
  have few : (store.within (keyspace.geoKey near.path) near.circle (some rows.toNat)).length ≤
      rows.toNat := by
    rw [Store.length_within]
    exact Nat.min_le_left ..
  have returned := returns_near page located backed
  rwa [bounded, Option.map_some, Page.apply_of_length_le bounded few] at returned

/-- **Pages of what is near.** A page is cut from as many of the nearest as it has rows. So it has
as many entities as are on that page of all that are near exactly if it skips none of them, or all
of them, or if all of them fit on one page. -/
theorem page_of_near_complete_iff
    (located : catalogue.schema.resolveGeo near.path = .ok property)
    (backed : catalogue.BacksPlaces keyspace near.path store) (bounded : page.rows = some rows)
    (positive : 1 ≤ rows.toNat) :
    ∃ found onPage : List Bytes, found.Nodup ∧ onPage.Nodup ∧ onPage ⊆ found ∧
      catalogue.Returns keyspace (Criteria.empty.withNear near) .whole store found ∧
      catalogue.Returns keyspace (Criteria.empty.withNear near) page store onPage ∧
      onPage.length = min rows.toNat found.length - page.offset.toNat ∧
      (onPage.length = (if page.offset.toNat < found.length then
          min rows.toNat (found.length - page.offset.toNat) else 0) ↔
        page.offset.toNat = 0 ∨ found.length ≤ page.offset.toNat ∨
          found.length ≤ rows.toNat) := by
  have length := store.length_within (keyspace.geoKey near.path) near.circle rows.toNat
  refine ⟨_, _, store.nodup_within .., (store.nodup_within ..).sublist (List.drop_sublist ..),
    List.Subset.trans (List.drop_subset ..) (store.within_subset ..),
    returns_near_whole located backed,
    returns_near_page located backed bounded, ?_, ?_⟩
  · rw [List.length_drop, length]
  · rw [List.length_drop, length]
    split <;> omega

end Circles

/-- Towns with their place. -/
def placedTown : EntityType where
  schema := (Schema.empty "Town" ⟨"towns"⟩).declareAll [(.identifier, "id"), (.geoIndexed, "place")]
  shape := .record "Town" [("id", .text), ("place", Point.shape)] []

/-- A harbour with two towns. -/
def harbour : Point :=
  ⟨0, 0⟩

/-- A town at the harbour, as a store keeps it. -/
def townAtHarbour (name : String) : Write :=
  .ofTexts "towns" name [("id", "\"" ++ name ++ "\""), ("place.x", "0.0"), ("place.y", "0.0")] []
    [("place", some harbour)]

/-- The two towns. -/
def harbourTowns : History :=
  [.put (townAtHarbour "tear"), .put (townAtHarbour "illian")]

/-- What is a kilometer around the harbour. -/
def nearHarbour : Near :=
  ⟨"place", ⟨harbour, ⟨1, .kilometers⟩⟩⟩

theorem located_harbour :
    placedTown.catalogue.schema.resolveGeo nearHarbour.path = .ok ⟨"place", .geoIndexed⟩ := by
  decide

theorem positions_harbour :
    (harbourTowns.store.positionsAt
      (placedTown.schema.keyspace.geoKey nearHarbour.path)).entries =
      [(Bytes.ofString "tear", harbour), (Bytes.ofString "illian", harbour)] :=
  rfl

theorem backsPlaces_harbour :
    placedTown.catalogue.BacksPlaces placedTown.schema.keyspace nearHarbour.path
      harbourTowns.store := by
  intro id point held
  have listed := InsertionMap.mem_entries.mpr held
  rw [positions_harbour] at listed
  have isOk : ∀ id ∈ [Bytes.ofString "tear", Bytes.ofString "illian"],
      (harbourTowns.store.get? placedTown.schema.keyspace id).any
        fun record => (placedTown.read record).isOk := by
    decide +kernel
  have known : id ∈ [Bytes.ofString "tear", Bytes.ofString "illian"] :=
    List.mem_map_of_mem (f := Prod.fst) listed
  exact Catalogue.exists_readsAt (isOk id known)

theorem page_of_near_complete_iff_harbour :
    placedTown.schema.resolveGeo nearHarbour.path = .ok ⟨"place", .geoIndexed⟩ ∧
      placedTown.catalogue.BacksPlaces placedTown.schema.keyspace nearHarbour.path
        harbourTowns.store ∧
      ∃ found onPage : List Bytes, found.Nodup ∧ onPage.Nodup ∧ onPage ⊆ found ∧
        placedTown.catalogue.Returns placedTown.schema.keyspace
          (Criteria.empty.withNear nearHarbour) .whole harbourTowns.store found ∧
        placedTown.catalogue.Returns placedTown.schema.keyspace
          (Criteria.empty.withNear nearHarbour) ⟨1, some 1⟩ harbourTowns.store onPage ∧
        onPage.length = min 1 found.length - 1 ∧
        (onPage.length = (if 1 < found.length then min 1 (found.length - 1) else 0) ↔
          1 = 0 ∨ found.length ≤ 1 ∨ found.length ≤ 1) := by
  have bounded : (⟨1, some 1⟩ : Page).rows = some 1 := rfl
  exact ⟨located_harbour, backsPlaces_harbour,
    page_of_near_complete_iff located_harbour backsPlaces_harbour bounded (Nat.le_refl 1)⟩

/-- **There is no second page at the harbour.** Where both towns are near enough, a query that is not
paged returns both, and the second of two pages with one town each is empty. How far a town is from
itself is a number that proofs cannot compute, so that it is near is supposed. -/
theorem no_second_page_harbour :
    placedTown.schema.resolveGeo nearHarbour.path = .ok ⟨"place", .geoIndexed⟩ ∧
      placedTown.catalogue.BacksPlaces placedTown.schema.keyspace nearHarbour.path
        harbourTowns.store ∧
      placedTown.catalogue.Returns placedTown.schema.keyspace
        (Criteria.empty.withNear nearHarbour) ⟨1, some 1⟩ harbourTowns.store [] ∧
      (harbour.distance harbour ≤ nearHarbour.circle.radius.inMeters →
        placedTown.catalogue.Returns placedTown.schema.keyspace
          (Criteria.empty.withNear nearHarbour) .whole harbourTowns.store
          [Bytes.ofString "tear", Bytes.ofString "illian"]) := by
  refine ⟨located_harbour, backsPlaces_harbour, ?_, fun close => ?_⟩
  · have bounded : (⟨1, some 1⟩ : Page).rows = some 1 := rfl
    have paged := returns_near_page located_harbour backsPlaces_harbour bounded
    rwa [List.drop_eq_nil_of_le] at paged
    rw [Store.length_within]
    exact Nat.min_le_left ..
  · have both : harbourTowns.store.within (placedTown.schema.keyspace.geoKey nearHarbour.path)
        nearHarbour.circle none = [Bytes.ofString "tear", Bytes.ofString "illian"] := by
      have measured : Store.measured nearHarbour.circle.center (harbourTowns.store.positionsAt
          (placedTown.schema.keyspace.geoKey nearHarbour.path)) =
          [(Bytes.ofString "tear", harbour.distance harbour),
            (Bytes.ofString "illian", harbour.distance harbour)] := rfl
      rw [Store.within, measured]
      simp [reached, withinReach, close]
    exact both ▸ returns_near_whole located_harbour backsPlaces_harbour

end SecondaryIndex
