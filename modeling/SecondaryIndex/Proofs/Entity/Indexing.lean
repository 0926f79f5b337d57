/-
**Index entries and fields tell the same.**

Fields are named while a value is taken apart, and index entries are looked up in the whole value. If
keys can be told apart behind dots, the two meet at each leaf:

* `standsUnder` — which fields are those of a path and of its items, and `standsUnder_iff` — there is
  one for each index that 64 bits hold;
* `exists_leaf_of_get?_flatten` — a field holds the text of the leaf that its name leads to;
* `Json.atHand` — what an index takes from a value, and `Json.perm_scalarSpots` — the scalars at the
  end of some steps or one item further are just those;
* `scalarsUnder` — the scalars in the fields of a path and of its items, as an index stores them, and
  `perm_scalarsUnder` — they are the values found at the path;
* `indexedAsStored` — so the index entries of a write are those that its fields ask for.
-/

import Mathlib.Data.List.Sigma
import SecondaryIndex.Proofs.Entity.Collisions
import SecondaryIndex.Proofs.Query.Actions
import SecondaryIndex.Proofs.Query.Plans

namespace SecondaryIndex

open Json

/-! ## Part 1 — paths -/

/-- No segment of the path is empty or taken for an index. -/
def Json.PlainPath (path : String) : Prop :=
  ∀ segment ∈ segments path, segment ≠ [] ∧ arrayIndex? segment = none

instance : DecidablePred PlainPath := fun path =>
  inferInstanceAs (Decidable (∀ segment ∈ segments path,
    segment ≠ [] ∧ arrayIndex? segment = none))

/-- The field is that of a path or of an item there. -/
def standsUnder (path field : String) : Bool :=
  field = path || ((segments field).getLast?.bind arrayIndex?).any fun position =>
    field = joinPath path (indexSegment position)

section Paths

variable {path field segment : String} {chars : List Char} {position : Nat}

theorem lt_of_indexValue? (found : indexValue? chars = some position) :
    position < UInt64.size := by
  simp only [indexValue?, Option.ite_none_left_eq_some, Option.ite_none_right_eq_some,
    Option.some.injEq] at found
  obtain ⟨_, fits, rfl⟩ := found
  exact fits

theorem lt_of_arrayIndex? (found : arrayIndex? chars = some position) :
    position < UInt64.size := by
  unfold arrayIndex? at found
  split at found
  · exact lt_of_indexValue? (Option.ite_none_right_eq_some.mp found).2
  · cases found

/-- An index that a path spells is one of 64 bits. -/
theorem lt_of_mem_steps (spelled : .index position ∈ steps path) : position < UInt64.size := by
  obtain ⟨chars, _, index⟩ := List.mem_map.mp spelled
  rw [Step.ofSegment] at index
  split at index
  · rename_i found
    cases index
    exact lt_of_arrayIndex? found
  · cases index

theorem getLast?_segments_joinPath (path : String) (undotted : '.' ∉ segment.toList) :
    (segments (joinPath path segment)).getLast? = some segment.toList := by
  by_cases none : path = ""
  · rw [joinPath, if_pos none, segments, List.splitOn_eq_singleton undotted]
    rfl
  · rw [segments_joinPath none undotted, List.getLast?_concat]

/-- **The fields under a path** are its own and those of its items, so far as 64 bits hold an
index. -/
theorem standsUnder_iff : standsUnder path field ↔
    field = path ∨ ∃ position < UInt64.size, field = joinPath path (indexSegment position) := by
  rw [standsUnder, Bool.or_eq_true, decide_eq_true_iff, Option.any_eq_true]
  refine or_congr_right ⟨?_, ?_⟩
  · rintro ⟨position, found, same⟩
    obtain ⟨last, _, index⟩ := Option.bind_eq_some_iff.mp found
    exact ⟨position, lt_of_arrayIndex? index, of_decide_eq_true same⟩
  · rintro ⟨position, fits, rfl⟩
    refine ⟨position, ?_, decide_eq_true rfl⟩
    rw [getLast?_segments_joinPath path undotted_indexSegment, Option.bind_some,
      arrayIndex?_indexSegment fits]

theorem Json.PlainPath.ne_empty (plain : PlainPath path) : path ≠ "" := by
  rintro rfl
  exact (plain [] (by decide)).1 rfl

/-- A path without indexes is joined from its steps. -/
theorem Json.PlainPath.joinSteps_steps (plain : PlainPath path) :
    joinSteps "" (steps path) = path := by
  have spelled : ∀ chars ∈ segments path, (Step.ofSegment chars).segment.toList = chars := by
    intro chars listed
    rw [Step.ofSegment, (plain chars listed).2]
    exact String.toList_ofList
  have filled : ∀ step ∈ steps path, step.segment ≠ "" := by
    intro step taken empty
    obtain ⟨chars, listed, rfl⟩ := List.mem_map.mp taken
    have none := spelled chars listed
    rw [empty] at none
    exact (plain chars listed).1 none.symm
  have same : (steps path).map (fun step => step.segment.toList) = segments path := by
    rw [steps, List.map_map]
    exact (List.map_congr_left spelled).trans (List.map_id _)
  refine String.toList_inj.mp ?_
  rw [toList_joinSteps filled, same]
  exact List.intercalate_splitOn '.'

end Paths

/-! ## Part 2 — fields -/

section Fields

variable {members : List (String × Json)} {spot : Spot} {field content : Bytes}

theorem Json.Addressable.separate (addressable : (object members).Addressable) :
    Separate members := by
  refine separate_of_separable addressable.distinct fun part inside key named => ?_
  have keyed := addressable part inside
  cases part with
  | object members =>
    obtain ⟨filled, undotted, _⟩ := keyed.2 key named
    exact ⟨filled, undotted⟩
  | _ => exact (List.not_mem_nil named).elim

theorem leaves_eq_map (addressable : (object members).Addressable) :
    leaves "" (object members) = (memberSpots members).map (Spot.leafBehind "") :=
  (leaves_object_eq members).trans addressable.separate.leavesAt_eq

/-- The path of a leaf leads to it. -/
theorem steps_path (addressable : (object members).Addressable)
    (listed : spot ∈ memberSpots members) : steps spot.path = spot.1 := by
  have filled : members ≠ [] := by
    rintro rfl
    exact List.not_mem_nil listed
  have located := map_located_leaves_object addressable filled
  rw [leaves_eq_map addressable, spots_object filled, List.map_map] at located
  have each := List.map_inj_left.mp (located.trans (List.map_id _).symm)
  exact congrArg Prod.fst (each spot listed)

theorem lookup_path (addressable : (object members).Addressable)
    (listed : spot ∈ memberSpots members) : (object members).lookup spot.path = some spot.2 := by
  rw [lookup, steps_path addressable listed]
  exact follow_of_mem_spots addressable.distinct (memberSpots_subset_spots members listed)

/-- **A field holds the text of the leaf that its name leads to.** -/
theorem exists_leaf_of_get?_flatten (addressable : (object members).Addressable)
    (held : (flatten (object members)).get? field = some content) :
    ∃ path leaf, field = Bytes.ofString path ∧ (object members).lookup path = some leaf ∧
      leaf.isLeaf ∧ content = Bytes.ofString leaf.render := by
  obtain ⟨spot, listed, rfl, rfl⟩ := exists_spot_of_get?_flatten held
  exact ⟨spot.path, spot.2, rfl, lookup_path addressable listed,
    isLeaf_of_mem_spots (memberSpots_subset_spots members listed), rfl⟩

end Fields

/-! ## Part 3 — what an index takes from a value -/

namespace Json

/-- No step, or one to an item. -/
def AtHand (steps : List Step) : Prop :=
  steps = [] ∨ ∃ position, steps = [.index position]

/-- What is at hand in a value: the items of an array, or else the value. -/
def atHand : Json → List Spot
  | .array items => items.zipIdx.map fun (item, position) => ([.index position], item)
  | value => [([], value)]

variable {value inner leaf : Json} {steps : List Step} {spot : Spot}

theorem mem_atHand_of_isSome (scalar : (IndexValue.ofJson? leaf).isSome) :
    (steps, leaf) ∈ inner.atHand ↔ AtHand steps ∧ follow steps inner = some leaf := by
  cases inner with
  | array items =>
    rw [atHand, List.mem_map]
    constructor
    · rintro ⟨⟨item, position⟩, listed, same⟩
      cases same
      refine ⟨.inr ⟨position, rfl⟩, Option.bind_eq_some_iff.mpr ⟨leaf, ?_, rfl⟩⟩
      exact List.mk_mem_zipIdx_iff_getElem?.mp listed
    · rintro ⟨rfl | ⟨position, rfl⟩, found⟩
      · -- a whole array is no scalar
        cases found
        cases scalar
      · obtain ⟨item, there, here⟩ := Option.bind_eq_some_iff.mp found
        cases here
        exact ⟨(leaf, position), List.mk_mem_zipIdx_iff_getElem?.mpr there, rfl⟩
  | _ =>
    refine List.mem_singleton.trans ⟨?_, ?_⟩
    · rintro same
      cases same
      exact ⟨.inl rfl, rfl⟩
    · rintro ⟨rfl | ⟨position, rfl⟩, found⟩ <;> cases found
      rfl

theorem nodup_atHand (value : Json) : value.atHand.Nodup := by
  cases value with
  | array items =>
    refine List.Nodup.of_map Prod.fst ?_
    have positions : (items.zipIdx.map Prod.snd).map (fun position => [Step.index position]) =
        (array items).atHand.map Prod.fst := by
      rw [atHand, List.map_map, List.map_map]
      rfl
    rw [← positions]
    exact (List.nodup_zipIdx_map_snd items).map fun _ _ same => Step.index.inj (List.cons.inj same).1
  | _ => exact List.nodup_singleton _

/-- The spots of scalars. -/
def scalarSpots (spots : List Spot) : List Spot :=
  spots.filter fun spot => (IndexValue.ofJson? spot.2).isSome

/-- Only scalars are indexed. -/
theorem filterMap_scalarSpots (spots : List Spot) :
    (scalarSpots spots).filterMap (fun spot => IndexValue.ofJson? spot.2) =
      spots.filterMap fun spot => IndexValue.ofJson? spot.2 := by
  rw [scalarSpots, List.filterMap_filter]
  refine List.filterMap_congr fun spot _ => ?_
  cases IndexValue.ofJson? spot.2 <;> rfl

theorem mem_scalarSpots {spots : List Spot} :
    spot ∈ scalarSpots spots ↔ spot ∈ spots ∧ (IndexValue.ofJson? spot.2).isSome :=
  List.mem_filter

theorem isLeaf_of_isSome (scalar : (IndexValue.ofJson? leaf).isSome) : leaf.isLeaf :=
  match leaf, scalar with
  | .boolean _, _ | .number _, _ | .text _, _ => rfl

theorem Distinct.nodup_spots (distinct : value.Distinct) : value.spots.Nodup :=
  distinct.pairwise_spots.imp fun parting same => parting.ne (congrArg Prod.fst same)

theorem nodup_flatMap_atHand (found : Option Json) : (found.toList.flatMap atHand).Nodup := by
  cases found with
  | none => exact .nil
  | some inner =>
    rw [Option.toList_some, List.flatMap_singleton]
    exact nodup_atHand inner

theorem mem_flatMap_atHand {found : Option Json} :
    spot ∈ found.toList.flatMap atHand ↔ ∃ inner, found = some inner ∧ spot ∈ inner.atHand := by
  simp only [List.mem_flatMap, Option.mem_toList]

/-- **The scalars at the end of some steps, or one item further, are those at hand there.** -/
theorem perm_scalarSpots (distinct : value.Distinct) (base : List Step) (under : Spot → Bool)
    (means : ∀ spot ∈ value.spots, under spot ↔ ∃ rest, AtHand rest ∧ spot.1 = base ++ rest) :
    (scalarSpots (value.spots.filter under)).Perm
      ((scalarSpots ((follow base value).toList.flatMap atHand)).map (Spot.behind base)) := by
  have first : (scalarSpots (value.spots.filter under)).Nodup :=
    (distinct.nodup_spots.filter _).filter _
  have second : ((scalarSpots ((follow base value).toList.flatMap atHand)).map
      (Spot.behind base)).Nodup := by
    refine ((nodup_flatMap_atHand _).filter _).map fun one other same => ?_
    obtain ⟨steps, leaf⟩ := Prod.mk.inj same
    exact Prod.ext (List.append_cancel_left steps) leaf
  refine (List.perm_ext_iff_of_nodup first second).mpr fun spot => ?_
  rw [mem_scalarSpots, List.mem_filter, List.mem_map]
  constructor
  · rintro ⟨⟨listed, named⟩, scalar⟩
    obtain ⟨rest, near, split⟩ := (means spot listed).mp named
    have found := follow_of_mem_spots distinct listed
    rw [split, follow_append] at found
    obtain ⟨inner, there, inside⟩ := Option.bind_eq_some_iff.mp found
    have held : (rest, spot.2) ∈ (follow base value).toList.flatMap atHand :=
      mem_flatMap_atHand.mpr ⟨inner, there, (mem_atHand_of_isSome scalar).mpr ⟨near, inside⟩⟩
    exact ⟨(rest, spot.2), mem_scalarSpots.mpr ⟨held, scalar⟩, Prod.ext split.symm rfl⟩
  · rintro ⟨part, taken, rfl⟩
    obtain ⟨held, scalar⟩ := mem_scalarSpots.mp taken
    obtain ⟨inner, there, taking⟩ := mem_flatMap_atHand.mp held
    obtain ⟨near, inside⟩ := (mem_atHand_of_isSome scalar).mp taking
    have found : follow (base ++ part.1) value = some part.2 := by
      rw [follow_append, there]
      exact inside
    have listed : Spot.behind base part ∈ value.spots :=
      (mem_spots_iff distinct).mpr ⟨found, isLeaf_of_isSome scalar⟩
    exact ⟨⟨listed, (means _ listed).mpr ⟨part.1, near, rfl⟩⟩, scalar⟩

end Json

/-! ## Part 4 — entries and fields -/

/-- The form in which an index stores the scalar of a field: a text as it is, and any other scalar as
its field holds it. -/
def indexText? (content : Bytes) : Json → Option IndexValue
  | .text value => some (.ofString value)
  | .boolean _ | .number _ => some ⟨content⟩
  | _ => none

/-- The scalars in the field of a path and in those of its items, as an index stores them. -/
def scalarsUnder (path : String) (value : Json) (fields : Fields) : List IndexValue :=
  fields.entries.filterMap fun entry =>
    entry.1.toText?.bind fun field =>
      if standsUnder path field then (value.lookup field).bind (indexText? entry.2) else none

/-- **Fields and index entries agree.** -/
structure IndexedAsStored (schema : Schema) (value : Json) (write : Write) : Prop where
  /-- The name of a field leads to a scalar or to an empty container, and the field holds its text. -/
  stored : ∀ field content, write.record.fields.get? field = some content →
    ∃ path leaf, field = Bytes.ofString path ∧ value.lookup path = some leaf ∧ leaf.isLeaf ∧
      content = Bytes.ofString leaf.render
  /-- The entries of a path are the scalars in its field and in those of its items. -/
  indexed : ∀ property ∈ schema.indexed, PlainPath property.path →
    ((write.indexes.filter (·.path = property.path)).map (·.value)).Perm
      (scalarsUnder property.path value write.record.fields)

section Entries

variable {members : List (String × Json)} {value : Json} {schema : Schema} {property : Property}
  {path : String} {entity : Entity} {write : Write}

theorem indexText?_render (leaf : Json) :
    indexText? (Bytes.ofString leaf.render) leaf = IndexValue.ofJson? leaf := by
  cases leaf <;> rfl

theorem indexedValues_eq (path : String) (value : Json) :
    indexedValues path value = ((value.lookup path).toList.flatMap atHand).filterMap fun spot =>
      IndexValue.ofJson? spot.2 := by
  rw [indexedValues]
  cases value.lookup path with
  | none => rfl
  | some inner =>
    rw [Option.toList_some, List.flatMap_singleton]
    cases inner with
    | array items =>
      have each := congrArg (List.filterMap IndexValue.ofJson?) (List.zipIdx_map_fst 0 items)
      rw [List.filterMap_map] at each
      rw [atHand, List.filterMap_map]
      exact each.symm
    | _ => rfl

/-- The scalars in the fields of a value are those of its leaves. -/
theorem perm_scalarsUnder_leaves (addressable : (object members).Addressable) (path : String) :
    (scalarsUnder path (object members) (flatten (object members))).Perm
      ((memberSpots members).filterMap fun spot =>
        if standsUnder path spot.path then IndexValue.ofJson? spot.2 else none) := by
  obtain ⟨todo, order, fields⟩ := exists_perm_leaves addressable
  rw [scalarsUnder, fields, List.filterMap_map]
  refine (order.filterMap _).trans (List.Perm.of_eq ?_)
  rw [leaves_eq_map addressable, List.filterMap_map]
  refine List.filterMap_congr fun spot listed => ?_
  show ((Bytes.ofString spot.path).toText?.bind fun field => if standsUnder path field then
    ((object members).lookup field).bind (indexText? (Bytes.ofString spot.2.render)) else none) = _
  rw [Bytes.toText?_ofString, Option.bind_some, lookup_path addressable listed, Option.bind_some,
    indexText?_render]

/-- The fields under a path are those of the leaves there or one item further. -/
theorem standsUnder_path_iff (addressable : (object members).Addressable) (plain : PlainPath path)
    {spot : Spot} (listed : spot ∈ memberSpots members) :
    standsUnder path spot.path ↔ ∃ rest, AtHand rest ∧ spot.1 = steps path ++ rest := by
  have back := steps_path addressable listed
  rw [standsUnder_iff]
  constructor
  · rintro (same | ⟨position, fits, same⟩)
    · refine ⟨[], .inl rfl, ?_⟩
      rw [← back, same, List.append_nil]
    · refine ⟨[.index position], .inr ⟨position, rfl⟩, ?_⟩
      rw [← back, same, steps_joinPath path undotted_indexSegment,
        ofSegment_indexSegment fits, stepsTo, if_neg plain.ne_empty]
  · rintro ⟨rest, rfl | ⟨position, rfl⟩, same⟩
    · left
      rw [Spot.path, same, List.append_nil, plain.joinSteps_steps]
    · refine .inr ⟨position, ?_, ?_⟩
      · -- the path of the leaf spells the index
        have spelled : Step.index position ∈ steps spot.path := by
          rw [back, same]
          exact List.mem_concat_self
        exact lt_of_mem_steps spelled
      · rw [Spot.path, same, joinSteps_append, plain.joinSteps_steps]
        rfl

/-- **The scalars in the fields of a path and of its items are the values found at the path.** -/
theorem perm_scalarsUnder (addressable : (object members).Addressable) (plain : PlainPath path) :
    (indexedValues path (object members)).Perm
      (scalarsUnder path (object members) (flatten (object members))) := by
  refine List.Perm.trans ?_ (perm_scalarsUnder_leaves addressable path).symm
  by_cases filled : members = []
  · subst filled
    have none : (object []).lookup path = none := by
      rw [lookup]
      obtain ⟨step, rest, split⟩ := List.exists_cons_of_ne_nil (steps_ne_nil path)
      rw [split]
      cases step <;> rfl
    rw [indexedValues_eq, none]
    rfl
  have same := perm_scalarSpots addressable.distinct (steps path)
    (fun spot => standsUnder path spot.path) fun spot listed =>
      standsUnder_path_iff addressable plain ((spots_object filled) ▸ listed)
  have values := same.symm.filterMap fun spot => IndexValue.ofJson? spot.2
  rw [List.filterMap_map, filterMap_scalarSpots, List.filterMap_filter, spots_object filled] at values
  rw [indexedValues_eq, lookup, ← filterMap_scalarSpots]
  exact values

/-- The entries of one path are the values found there. -/
theorem filter_indexEntries (declared : schema.Declared) (indexed : property ∈ schema.indexed)
    (value : Json) :
    ((indexEntries schema value).filter (·.path = property.path)).map (·.value) =
      indexedValues property.path value := by
  have nodup : (schema.indexed.map (·.path)).Nodup :=
    declared.nodup.sublist (List.filter_sublist.map _)
  have none {others : List Property} (apart : property.path ∉ others.map (·.path)) :
      (others.flatMap fun other => (indexedValues other.path value).map
        (IndexEntry.mk other.path)).filter (·.path = property.path) = [] := by
    refine List.filter_eq_nil_iff.mpr fun entry listed same => ?_
    obtain ⟨other, named, taken⟩ := List.mem_flatMap.mp listed
    obtain ⟨held, _, rfl⟩ := List.mem_map.mp taken
    exact apart (List.mem_map.mpr ⟨other, named, of_decide_eq_true same⟩)
  obtain ⟨before, after, split⟩ := List.append_of_mem indexed
  rw [split, List.map_append, List.map_cons, List.nodup_middle, List.nodup_cons,
    List.mem_append, not_or] at nodup
  have own : ((indexedValues property.path value).map (IndexEntry.mk property.path)).filter
      (·.path = property.path) = (indexedValues property.path value).map
        (IndexEntry.mk property.path) := by
    refine List.filter_eq_self.mpr fun entry listed => ?_
    obtain ⟨held, _, rfl⟩ := List.mem_map.mp listed
    exact decide_eq_true rfl
  rw [indexEntries, split, List.flatMap_append, List.flatMap_cons, List.filter_append,
    List.filter_append, none nodup.1.1, none nodup.1.2, own, List.nil_append, List.append_nil,
    List.map_map]
  exact List.map_id _

/-- **What is indexed is what is stored.** -/
theorem indexedAsStored (form : entity.form = .ok value) (addressable : value.Addressable)
    (declared : schema.Declared) (written : entity.write schema = .ok write) :
    IndexedAsStored schema value write := by
  obtain ⟨held, positions, formed, object, -, rfl⟩ := Entity.of_write written
  cases form.symm.trans formed
  obtain ⟨members, rfl⟩ : ∃ members, value = .object members := by
    cases value with
    | object members => exact ⟨members, rfl⟩
    | _ => cases object
  refine ⟨fun field content => exists_leaf_of_get?_flatten addressable, ?_⟩
  intro property indexed plain
  show (((indexEntries schema (.object members)).filter _).map _).Perm _
  rw [filter_indexEntries declared indexed]
  exact perm_scalarsUnder addressable plain

end Entries

/-- A town with tags of all kinds, and with a land. -/
def quay : Json :=
  .object [("id", .text "tear"),
    ("tags", .array [.null, .text "port", .object [("[x]", .text "old")], .array [],
      .number (.ofInt 7), .array [.text "inner"], .boolean true]),
    ("land", .object [("name", .text "Tear"), ("rivers", .object []), ("king", .null)])]

/-- Towns with tags, each in a land. -/
def landedTown : Schema :=
  (Schema.empty "Town" ⟨"towns"⟩).declareAll
    [(.identifier, "id"), (.indexed, "tags"), (.indexed, "land.name"), (.indexed, "land.king")]

theorem indexedAsStored_quay :
    quay.Addressable ∧ landedTown.Declared ∧
      (∀ property ∈ landedTown.indexed, PlainPath property.path) ∧
      ∃ write, (⟨.ok quay, .ofString "tear"⟩ : Entity).write landedTown = .ok write ∧
        IndexedAsStored landedTown quay write ∧
        scalarsUnder "tags" quay write.record.fields =
          [.ofString "port", .ofString "7", .ofString "true"] ∧
        scalarsUnder "land.name" quay write.record.fields = [.ofString "Tear"] ∧
        scalarsUnder "land.king" quay write.record.fields = [] := by
  have addressable : quay.Addressable := by decide
  have declared : landedTown.Declared := ⟨_, _, _, rfl⟩
  have written : (⟨.ok quay, .ofString "tear"⟩ : Entity).write landedTown = .ok
      ⟨⟨Bytes.ofString "tear", ⟨"towns"⟩, flatten quay⟩, indexEntries landedTown quay, []⟩ :=
    rfl
  exact ⟨addressable, declared, by decide +kernel, _, written,
    indexedAsStored rfl addressable declared written, by decide +kernel, by decide +kernel,
    by decide +kernel⟩

end SecondaryIndex
