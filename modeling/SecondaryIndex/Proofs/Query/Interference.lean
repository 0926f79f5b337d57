/-
**Looking for entities while others write and remove some.**

A query looks sets up and fetches fields in calls of its own, so the ids that it collects may never
have met the criteria at one time. What it returns still comes from one point of the run:

* `History.kept?` — the write that an id of a keyspace stands for, if fields are kept of it;
* `Searchable` — what is supposed of the run and of the criteria;
* `Searchable.mem_idsAt_iff` — whether an id is collected does not depend on updates of other ids;
* `find_among_updates` — every returned entity is read from the write that stood for its id when
  fields were fetched, no id is returned twice, and an entity that no interleaved update is about is
  returned exactly if the query alone would return it.
-/

import SecondaryIndex.Proofs.Query.FullScan
import SecondaryIndex.Proofs.Query.Moments
import SecondaryIndex.Proofs.Store.Keyspaces

namespace SecondaryIndex

/-! ## Part 1 — what is kept of an id -/

namespace History

variable {keyspace : Keyspace} {history made : History} {id : Bytes} {write : Write}

/-- The write that stands for an id of a keyspace, if fields are kept of it. -/
def kept? (history : History) (keyspace : Keyspace) (id : Bytes) : Option Write :=
  ((history.inside keyspace).standing id).filter fun write => !write.record.fields.isEmpty

theorem kept?_eq_some_iff :
    history.kept? keyspace id = some write ↔
      (history.inside keyspace).standing id = some write ∧
        write.record.fields.isEmpty = false := by
  rw [kept?, Option.filter_eq_some_iff, Bool.not_eq_true']

theorem id_of_kept? (kept : history.kept? keyspace id = some write) : write.id = id :=
  (of_standing_inside (kept?_eq_some_iff.mp kept).1).2.1

theorem mem_filterMap_kept? {ids : List Bytes} :
    write ∈ ids.filterMap (history.kept? keyspace) ↔
      write.id ∈ ids ∧ history.kept? keyspace write.id = some write := by
  rw [List.mem_filterMap]
  constructor
  · rintro ⟨id, listed, kept⟩
    obtain rfl := id_of_kept? kept
    exact ⟨listed, kept⟩
  · rintro ⟨listed, kept⟩
    exact ⟨write.id, listed, kept⟩

/-- What is kept of different ids has different ids. -/
theorem nodup_filterMap_kept? {ids : List Bytes} (nodup : ids.Nodup) :
    ((ids.filterMap (history.kept? keyspace)).map Write.id).Nodup := by
  rw [List.map_filterMap]
  refine nodup.filterMap fun first second id firstKept secondKept => ?_
  obtain ⟨write, kept, rfl⟩ := Option.map_eq_some_iff.mp firstKept
  obtain ⟨other, otherKept, same⟩ := Option.map_eq_some_iff.mp secondKept
  rw [← id_of_kept? kept, ← id_of_kept? otherKept, same]

/-- Updates of other ids leave the standing write of an id. -/
theorem standing_append (untouched : ∀ update ∈ made, update.id ≠ id) :
    (history ++ made).standing id = history.standing id := by
  have none : made.filter (fun update => update.id = id) = [] := by
    rw [List.filter_eq_nil_iff]
    exact fun update listed same => untouched update listed (of_decide_eq_true same)
  rw [standing, last?, List.filter_append, none, List.append_nil]
  rfl

theorem standing_inside_append
    (untouched : ∀ update ∈ made, update.keyspace = keyspace → update.id ≠ id) :
    (History.inside keyspace (history ++ made)).standing id =
      (history.inside keyspace).standing id := by
  rw [inside_append]
  refine standing_append fun update listed => ?_
  obtain ⟨member, own⟩ := mem_inside.mp listed
  exact untouched update member own

end History

/-- The record of an id is that of the write that is kept of it. -/
theorem Neighbourly.get?_store {keyspace : Keyspace} {history : History}
    (neighbourly : Neighbourly keyspace history) (id : Bytes) :
    history.store.get? keyspace id = (history.kept? keyspace id).map Write.record := by
  have fields : history.store.fieldsAt (keyspace.entityKey id) =
      (((history.inside keyspace).standing id).bind Write.stored?).getD ∅ := by
    rw [Store.fieldsAt, neighbourly.get?_fields_store]
  rw [Store.get?, fields, History.kept?]
  cases stands : (history.inside keyspace).standing id with
  | none => rfl
  | some write =>
    obtain ⟨_, rfl, rfl⟩ := History.of_standing_inside stands
    cases bare : write.record.fields.isEmpty with
    | true =>
      have gone : Write.stored? write = none := if_pos bare
      simp [gone, bare, Option.filter, show (∅ : Fields).isEmpty from rfl]
    | false =>
      have kept : Write.stored? write = some write.record.fields := by rw [Write.stored?, bare]; rfl
      simp [kept, bare, Option.filter]
      rfl

/-! ## Part 2 — criteria and the keys they name -/

section Keys

variable {schema : Schema} {criteria : Criteria} {predicates : List Predicate} {key : Bytes}

theorem mem_indexKeys {keyspace : Keyspace} :
    key ∈ indexKeys keyspace predicates ↔
      ∃ predicate ∈ predicates, ∃ value ∈ predicate.values,
        key = keyspace.indexKey predicate.path value.bytes := by
  rw [indexKeys, List.mem_flatMap]
  simp [eq_comm]

theorem exists_of_mem_together (listed : key ∈ (Group.together schema predicates).keys) :
    ∃ predicate ∈ predicates, ∃ value ∈ predicate.values,
      key = schema.keyspace.indexKey predicate.path value.bytes := by
  match predicates, listed with
  | [], listed => exact mem_indexKeys.mp listed
  | [predicate], listed =>
    obtain ⟨named, member, _, value⟩ := mem_keys.mp listed
    exact ⟨named, member, value⟩
  | first :: second :: rest, listed => exact mem_indexKeys.mp listed

/-- The keys of a plan are those of values that the criteria name. -/
theorem exists_names_of_mem
    (listed : key ∈ (Plan.besideNear schema criteria).all.keys ∨
      key ∈ (Plan.besideNear schema criteria).any.keys) :
    ∃ path value, criteria.Names path value ∧ key = schema.keyspace.indexKey path value.bytes := by
  rcases listed with listed | listed
  · obtain ⟨predicate, member, value, named, same⟩ := exists_of_mem_together listed
    exact ⟨predicate.path, value, ⟨predicate, .inl member, rfl, named⟩, same⟩
  · obtain ⟨predicate, member, _, value, named, same⟩ := mem_keys.mp listed
    exact ⟨predicate.path, value, ⟨predicate, .inr member, rfl, named⟩, same⟩

end Keys

/-! ## Part 3 — runs and queries -/

/-- What is supposed of a run and of criteria without a circle: keyspaces that are apart, no list of
index keys at the key of a set that is written to or looked up, and writes that read back. -/
structure Searchable (type : EntityType) (criteria : Criteria) (run : History) : Prop where
  near : criteria.near? = none
  asks : criteria.isEmpty = false
  resolves : criteria.Resolves type.schema
  neighbourly : Neighbourly type.schema.keyspace run
  unlisted : ∀ path value, criteria.Names path value →
    type.schema.keyspace.indexKey path value.bytes ∉ run.helperKeys
  readable : ∀ write, .put write ∈ run → write.keyspace = type.schema.keyspace →
    write.record.fields.isEmpty = false → ∃ value, type.read write.record = .ok value

/-- Values read back from the writes that stand for different ids of a keyspace. -/
structure ReadsBack (type : EntityType) (history : History) (found : List Write)
    (values : List Json) : Prop where
  nodup : (found.map Write.id).Nodup
  stands : ∀ write ∈ found,
    (history.inside type.schema.keyspace).standing write.id = some write
  read : List.Forall₂ (fun write value => type.read write.record = .ok value) found values

/-- No update to come is about the id. -/
def Moment.Spares (moment : Moment) (keyspace : Keyspace) (id : Bytes) : Prop :=
  ∀ update ∈ moment.coming.flatten, update.keyspace = keyspace → update.id ≠ id

/-- The writes that a plan finds. -/
def Plan.writesAt (plan : Plan) (keyspace : Keyspace) (moment : Moment) : List Write :=
  (plan.idsAt moment.next).filterMap ((plan.fetchAt moment).past.kept? keyspace)

namespace Moment.Before

variable {moment later : Moment} {keyspace : Keyspace} {id : Bytes}

/-- An id that no update is about stands for the same write later on. -/
theorem standing_eq (before : moment.Before later) (spares : moment.Spares keyspace id) :
    (later.past.inside keyspace).standing id = (moment.past.inside keyspace).standing id := by
  obtain ⟨made, past, coming⟩ := before
  rw [past]
  refine History.standing_inside_append fun update listed => spares update ?_
  exact coming ▸ List.mem_append_left _ listed

theorem neighbourly (before : moment.Before later) (run : Neighbourly keyspace moment.run) :
    Neighbourly keyspace later.past :=
  (before.run_eq ▸ run : Neighbourly keyspace later.run).left

end Moment.Before

namespace Searchable

variable {type : EntityType} {criteria : Criteria} {moment later : Moment} {id : Bytes}
  {path : String} {value : IndexValue} {write : Write}

/-- A set that is looked up holds an id that no update is about later exactly if it does now. -/
theorem mem_members_iff (searchable : Searchable type criteria moment.run)
    (before : moment.Before later) (spares : moment.Spares type.schema.keyspace id)
    (named : criteria.Names path value) :
    id ∈ later.store.members (type.schema.keyspace.indexKey path value.bytes) ↔
      id ∈ moment.store.members (type.schema.keyspace.indexKey path value.bytes) := by
  have unlisted := searchable.unlisted path value named
  have free : ∀ {point : Moment}, moment.Before point →
      type.schema.keyspace.indexKey path value.bytes ∉ point.past.helperKeys := by
    intro point reached helper
    refine unlisted (reached.run_eq ▸ ?_)
    rw [Moment.run, History.helperKeys, List.map_append]
    exact List.mem_append_left _ helper
  have owned := type.schema.keyspace.owns_indexKey path value.bytes
  have unregistered := type.schema.keyspace.indexKey_ne_registryKey path value.bytes
  have still := Moment.Before.refl moment
  rw [Moment.store, Moment.store,
    (before.neighbourly searchable.neighbourly).mem_members_store owned unregistered (free before),
    (still.neighbourly searchable.neighbourly).mem_members_store owned unregistered (free still),
    before.standing_eq spares]

/-- **Whether an id is collected does not depend on updates of other ids.** -/
theorem mem_idsAt_iff (searchable : Searchable type criteria moment.run)
    (spares : moment.Spares type.schema.keyspace id) :
    id ∈ (Plan.besideNear type.schema criteria).idsAt moment.next ↔
      id ∈ (Plan.besideNear type.schema criteria).ids moment.store := by
  have same : ∀ {point : Moment} {key : Bytes}, moment.Before point →
      (key ∈ (Plan.besideNear type.schema criteria).all.keys ∨
        key ∈ (Plan.besideNear type.schema criteria).any.keys) →
      (id ∈ point.store.members key ↔ id ∈ moment.store.members key) := by
    intro point key reached listed
    obtain ⟨path, value, named, rfl⟩ := exists_names_of_mem listed
    exact searchable.mem_members_iff reached spares named
  have all := moment.before_next.trans (Plan.before_allAt (.besideNear type.schema criteria) _)
  have any := moment.before_next.trans (Plan.before_anyAt (.besideNear type.schema criteria) _)
  rw [mem_idsAt, mem_ids]
  refine or_congr (or_congr_left ?_) (or_congr_left ?_)
  · exact and_congr_right fun _ => forall₂_congr fun key listed => same all (.inl listed)
  · exact exists_congr fun key => and_congr_right fun listed => same any (.inr listed)

/-- What is kept of an id comes from the run, so it can be read. -/
theorem readable_of_kept? (searchable : Searchable type criteria moment.run)
    (before : moment.Before later)
    (kept : later.past.kept? type.schema.keyspace id = some write) :
    ∃ value, type.read write.record = .ok value := by
  obtain ⟨stands, filled⟩ := History.kept?_eq_some_iff.mp kept
  obtain ⟨listed, _, own⟩ := History.of_standing_inside stands
  refine searchable.readable write ?_ own filled
  rw [← before.run_eq]
  exact List.mem_append_left _ listed

/-- **A query in a run** reads back the writes that it finds. -/
theorem among_find_eq (searchable : Searchable type criteria moment.run)
    (sorting : Option (Sorting Json)) :
    ∃ values, (Querying.among (type.catalogue.find criteria sorting .whole) moment).1 =
        .ok (arranged sorting values) ∧
      ReadsBack type ((Plan.besideNear type.schema criteria).fetchAt moment).past
        ((Plan.besideNear type.schema criteria).writesAt type.schema.keyspace moment) values := by
  have before := Plan.before_fetchAt (.besideNear type.schema criteria) moment
  have neighbourly := before.neighbourly searchable.neighbourly
  have records : (Plan.besideNear type.schema criteria).recordsAt type.schema.keyspace moment =
      ((Plan.besideNear type.schema criteria).writesAt type.schema.keyspace moment).map
        Write.record := by
    rw [Plan.recordsAt, Plan.writesAt, List.map_filterMap]
    exact List.filterMap_congr fun id _ => neighbourly.get?_store id
  have readable : ∀ write ∈ (Plan.besideNear type.schema criteria).writesAt type.schema.keyspace
      moment, ∃ value, type.read write.record = .ok value := fun write listed =>
    searchable.readable_of_kept? before (History.mem_filterMap_kept?.mp listed).2
  obtain ⟨values, read⟩ := exists_forall₂ readable
  refine ⟨values, ?_, History.nodup_filterMap_kept? (Plan.nodup_idsAt _ _),
    fun write listed => ?_, read⟩
  · have all : type.catalogue.readAll (((Plan.besideNear type.schema criteria).writesAt
        type.schema.keyspace moment).map Write.record) = .ok values :=
      readAll_eq_ok_iff.mpr (List.forall₂_map_left_iff.mpr read)
    rw [among_find sorting searchable.asks searchable.near searchable.resolves, records, all]
    rfl
  · exact (History.kept?_eq_some_iff.mp (History.mem_filterMap_kept?.mp listed).2).1

/-- A write of an id that no update is about is found exactly if it is found at once. -/
theorem mem_writesAt_iff (searchable : Searchable type criteria moment.run)
    (spares : moment.Spares type.schema.keyspace write.id) :
    write ∈ (Plan.besideNear type.schema criteria).writesAt type.schema.keyspace moment ↔
      write.id ∈ (Plan.besideNear type.schema criteria).ids moment.store ∧
        moment.past.kept? type.schema.keyspace write.id = some write := by
  have before := Plan.before_fetchAt (.besideNear type.schema criteria) moment
  rw [Plan.writesAt, History.mem_filterMap_kept?, searchable.mem_idsAt_iff spares, History.kept?,
    before.standing_eq spares]
  rfl

/-- The first part of a run. -/
theorem left {first second : History} (searchable : Searchable type criteria (first ++ second)) :
    Searchable type criteria first where
  near := searchable.near
  asks := searchable.asks
  resolves := searchable.resolves
  neighbourly := searchable.neighbourly.left
  unlisted path value named helper := by
    refine searchable.unlisted path value named ?_
    rw [History.helperKeys, List.map_append]
    exact List.mem_append_left _ helper
  readable write listed := searchable.readable write (List.mem_append_left _ listed)

end Searchable

section Runs

variable {type : EntityType} {criteria : Criteria} {start : History} {coming : List History}

/-- **Looking for entities among updates of others.** The query reads back writes that stand for
different ids when fields are fetched, and of the ids that no interleaved update is about it finds
the writes that it would find alone. -/
theorem find_among_updates (searchable : Searchable type criteria (start ++ coming.flatten))
    (sorting : Option (Sorting Json)) :
    ∃ found values alone solo,
      (Querying.among (type.catalogue.find criteria sorting .whole) ⟨start, coming⟩).1 =
        .ok (arranged sorting values) ∧
      ReadsBack type ((Plan.besideNear type.schema criteria).fetchAt ⟨start, coming⟩).past
        found values ∧
      (Querying.eval (type.catalogue.find criteria sorting .whole) start.store).1 =
        .ok (arranged sorting solo) ∧
      ReadsBack type start alone solo ∧
      ∀ write, (∀ update ∈ coming.flatten,
          update.keyspace = type.schema.keyspace → update.id ≠ write.id) →
        (write ∈ found ↔ write ∈ alone) := by
  have still : Searchable type criteria (Moment.run ⟨start, []⟩) := by
    rw [Moment.run, List.flatten_nil, List.append_nil]
    exact searchable.left
  have whole : Searchable type criteria (Moment.run ⟨start, coming⟩) := searchable
  obtain ⟨values, outcome, read⟩ := whole.among_find_eq sorting
  obtain ⟨solo, soloOutcome, soloRead⟩ := still.among_find_eq sorting
  obtain ⟨later, evaluated, _⟩ :=
    Querying.among_still (type.catalogue.find criteria sorting .whole) start
  rw [Plan.fetchAt_still] at soloRead
  refine ⟨_, values, _, solo, outcome, read, ?_, soloRead, fun write spares => ?_⟩
  · rw [evaluated]
    exact soloOutcome
  · have untouched : Moment.Spares ⟨start, []⟩ type.schema.keyspace write.id :=
      fun update listed => (List.not_mem_nil listed).elim
    exact (whole.mem_writesAt_iff spares).trans (still.mem_writesAt_iff untouched).symm

end Runs

/-- A town with its land, as a store keeps it. -/
def townWrite (name land : String) : Write :=
  .ofTexts "towns" name [("id", "\"" ++ name ++ "\""), ("land", "\"" ++ land ++ "\"")]
    [("land", land)] []

/-- Three towns. -/
def townsAtFirst : History :=
  [.put (townWrite "illian" "illian"), .put (townWrite "tear" "illian"),
    .put (townWrite "cairhien" "cairhien")]

/-- A town changes its land after the first look-up, another one goes, and a person comes. -/
def townsToCome : List History :=
  [[], [], [.put (townWrite "tear" "tear")],
    [.delete ⟨"towns"⟩ (Bytes.ofString "cairhien") [],
      .put (.ofTexts "persons" "1" [("city", "\"Tear\"")] [("city", "Tear")] [])]]

theorem searchable_towns : Searchable town townCriteria (townsAtFirst ++ townsToCome.flatten) where
  near := rfl
  asks := rfl
  resolves := plain_town.resolves
  neighbourly := .of_colonFree (by decide) (by decide) (by decide)
  unlisted := by
    have free : ∀ predicate ∈ townCriteria.all.toList ++ townCriteria.any.toList,
        ∀ value ∈ predicate.values, town.schema.keyspace.indexKey predicate.path value.bytes ∉
          (townsAtFirst ++ townsToCome.flatten).helperKeys := by decide
    rintro path value ⟨predicate, either, rfl, named⟩
    exact free predicate (List.mem_append.mpr either) value named
  readable := by
    have isOk : ∀ update ∈ townsAtFirst ++ townsToCome.flatten, ∀ write ∈ update.write?,
        write.keyspace = town.schema.keyspace → (town.read write.record).isOk := by decide +kernel
    exact fun write listed own _ => exists_of_isOk (isOk (.put write) listed write rfl own)

theorem find_among_updates_towns :
    Searchable town townCriteria (townsAtFirst ++ townsToCome.flatten) ∧
      ∃ found values alone solo,
        (Querying.among (town.catalogue.find townCriteria none .whole)
          ⟨townsAtFirst, townsToCome⟩).1 = .ok (arranged none values) ∧
        ReadsBack town ((Plan.besideNear town.schema townCriteria).fetchAt
          ⟨townsAtFirst, townsToCome⟩).past found values ∧
        (Querying.eval (town.catalogue.find townCriteria none .whole) townsAtFirst.store).1 =
          .ok (arranged none solo) ∧
        ReadsBack town townsAtFirst alone solo ∧
        ∀ write, (∀ update ∈ townsToCome.flatten,
            update.keyspace = town.schema.keyspace → update.id ≠ write.id) →
          (write ∈ found ↔ write ∈ alone) :=
  ⟨searchable_towns, find_among_updates searchable_towns none⟩

end SecondaryIndex
