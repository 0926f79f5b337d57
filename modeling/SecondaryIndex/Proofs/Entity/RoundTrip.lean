/-
**What is flattened is restored.**

* `steps_joinPath` — a path spells the steps that it was joined from, if its segments have no dots;
* `map_located_leaves` — the leaves of a value are its spots, under paths that spell their steps;
* `rebuild_of_placeAll` — to rebuild a value is to put the leaves of its fields in place;
* `exists_rebuilt` — the fields of a legible object rebuild it, without what vanishes;
* `restored_of_legible` — so an entity that is written is read back.
-/

import Mathlib.Data.List.Perm.Basic
import SecondaryIndex.Entity.Flat
import SecondaryIndex.Entity.Samples
import SecondaryIndex.Proofs.Json.Growth

namespace SecondaryIndex

open Json

/-! ## Part 1 — paths -/

section Paths

variable {path segment : String} {position : Nat}

/-- The steps to what stands at a path, none if the path is empty. -/
def stepsTo (path : String) : List Step :=
  if path = "" then [] else steps path

theorem steps_ne_nil (path : String) : steps path ≠ [] := by
  rw [steps, segments]
  exact fun none => List.splitOn_ne_nil _ _ (List.map_eq_nil_iff.mp none)

theorem steps_of_undotted (undotted : '.' ∉ segment.toList) :
    steps segment = [Step.ofSegment segment.toList] := by
  rw [steps, segments, List.splitOn_eq_singleton undotted, List.map_singleton]

/-- A longer path has one more segment. -/
theorem segments_joinPath (filled : path ≠ "") (undotted : '.' ∉ segment.toList) :
    segments (joinPath path segment) = segments path ++ [segment.toList] := by
  have chars : (path ++ "." ++ segment).toList = path.toList ++ '.' :: segment.toList := by
    rw [String.toList_append, String.toList_append, List.append_assoc]
    rfl
  rw [joinPath, if_neg filled, segments, chars, List.splitOn_append_cons_self,
    List.splitOn_eq_singleton undotted]
  rfl

/-- **A longer path spells one more step.** -/
theorem steps_joinPath (path : String) (undotted : '.' ∉ segment.toList) :
    steps (joinPath path segment) = stepsTo path ++ [Step.ofSegment segment.toList] := by
  by_cases none : path = ""
  · rw [joinPath, if_pos none, stepsTo, if_pos none, steps_of_undotted undotted, List.nil_append]
  · rw [stepsTo, if_neg none, steps, segments_joinPath none undotted, List.map_append,
      List.map_singleton]
    rfl

theorem joinPath_ne_empty (path : String) (filled : segment ≠ "") : joinPath path segment ≠ "" := by
  rw [joinPath]
  split
  · exact filled
  · intro empty
    have none := congrArg String.toList empty
    rw [String.toList_append, String.toList_append] at none
    simp at none

theorem stepsTo_joinPath (path : String) (undotted : '.' ∉ segment.toList)
    (filled : segment ≠ "") :
    stepsTo (joinPath path segment) = stepsTo path ++ [Step.ofSegment segment.toList] := by
  rw [stepsTo, if_neg (joinPath_ne_empty path filled), steps_joinPath path undotted]

theorem toList_indexSegment :
    (indexSegment position).toList = '[' :: (Nat.toDigits 10 position ++ [']']) := by
  simp only [indexSegment, Nat.repr_eq_ofList_toDigits, String.toList_append,
    String.toList_ofList]
  rfl

theorem isDigit_of_mem {char : Char} (digit : char ∈ Nat.toDigits 10 position) : char.isDigit :=
  Nat.isDigit_of_mem_toDigits (by decide) (by decide) digit

theorem undotted_indexSegment : '.' ∉ (indexSegment position).toList := by
  rw [toList_indexSegment]
  intro dot
  simp only [List.mem_cons, List.mem_append, List.not_mem_nil, or_false] at dot
  rcases dot with dot | dot | dot
  · cases dot
  · exact absurd (isDigit_of_mem dot) (by decide)
  · cases dot

theorem indexSegment_ne_empty : indexSegment position ≠ "" := by
  intro empty
  have none := congrArg String.toList empty
  rw [toList_indexSegment] at none
  cases none

/-- Digits spell the number that they are the digits of. -/
theorem indexValue?_toDigits (fits : position < UInt64.size) :
    indexValue? (Nat.toDigits 10 position) = some position := by
  obtain ⟨first, rest, digits⟩ := List.exists_cons_of_ne_nil (@Nat.toDigits_ne_nil position 10)
  have all : ∀ char ∈ first :: rest, char.isDigit := fun _ digit => isDigit_of_mem (digits ▸ digit)
  have value : Nat.ofDigitChars 10 (first :: rest) 0 = position := by
    rw [← digits, Nat.ofDigitChars_ten_toDigits]
  have unsigned : ∀ others, first :: rest = '+' :: others → False := by
    intro others same
    exact absurd (all '+' (same ▸ List.mem_cons_self)) (by decide)
  rw [digits, indexValue?]
  simp only [value, fits, List.all_eq_true.mpr all, List.isEmpty_cons, Bool.not_true,
    Bool.or_false, Bool.false_eq_true, if_false, if_true]
  exact unsigned

theorem arrayIndex?_indexSegment (fits : position < UInt64.size) :
    arrayIndex? (indexSegment position).toList = some position := by
  have bracket : (Nat.toDigits 10 position ++ [']']).getLast? = some ']' := List.getLast?_concat
  rw [toList_indexSegment, arrayIndex?, if_pos bracket, List.dropLast_concat,
    indexValue?_toDigits fits]

theorem ofSegment_indexSegment (fits : position < UInt64.size) :
    Step.ofSegment (indexSegment position).toList = .index position := by
  rw [Step.ofSegment, arrayIndex?_indexSegment fits]

end Paths

/-! ## Part 2 — leaves and their paths -/

/-- A leaf with the steps that its path spells. -/
def located (leaf : String × Json) : Spot :=
  (steps leaf.1, leaf.2)

/-- The spot of a part seen from the whole. -/
def Json.Spot.behind (before : List Step) (spot : Spot) : Spot :=
  (before ++ spot.1, spot.2)

section Leaves

variable {path : String} {value leaf : Json} {items : List Json} {members : List (String × Json)}
  {start : Nat}

theorem leaves_leaf (ends : leaf.isLeaf) (filled : path ≠ "") : leaves path leaf = [(path, leaf)] :=
  match leaf, ends with
  | .boolean _, _ | .number _, _ | .text _, _ | .array [], _ | .object [], _ => if_neg filled

theorem leaves_array (filled : items ≠ []) :
    leaves path (array items) = itemLeaves path 0 items := by
  obtain ⟨item, rest, rfl⟩ := List.exists_cons_of_ne_nil filled
  rw [leaves]

theorem leaves_object (filled : members ≠ []) :
    leaves path (object members) = memberLeaves path members := by
  obtain ⟨member, rest, rfl⟩ := List.exists_cons_of_ne_nil filled
  rw [leaves]

theorem map_behind_below {before : List Step} {step : Step} (spots : List Spot) :
    (spots.map (Spot.below step)).map (Spot.behind before) =
      spots.map (Spot.behind (before ++ [step])) := by
  rw [List.map_map]
  refine List.map_congr_left fun spot _ => ?_
  exact congrArg (·, spot.2) (List.append_cons before step spot.1)

theorem map_located_itemLeaves (fits : start + items.length ≤ UInt64.size)
    (each : ∀ item ∈ items, ∀ path, path ≠ "" →
      (leaves path item).map located = item.spots.map (Spot.behind (stepsTo path))) :
    (itemLeaves path start items).map located =
      (itemSpots start items).map (Spot.behind (stepsTo path)) := by
  induction items generalizing start with
  | nil => rfl
  | cons item rest ih =>
    rw [List.length_cons] at fits
    rw [List.forall_mem_cons] at each
    have first : (leaves (joinPath path (indexSegment start)) item).map located =
        item.spots.map (Spot.behind (stepsTo path ++ [.index start])) := by
      rw [each.1 _ (joinPath_ne_empty path indexSegment_ne_empty),
        stepsTo_joinPath path undotted_indexSegment indexSegment_ne_empty,
        ofSegment_indexSegment (by omega)]
    rw [itemLeaves, itemSpots, List.map_append, List.map_append, first, map_behind_below,
      ih (by omega) each.2]

theorem map_located_memberLeaves (plain : ∀ key ∈ members.map Prod.fst, PlainKey key)
    (each : ∀ entry ∈ members, ∀ path, path ≠ "" →
      (leaves path entry.2).map located = entry.2.spots.map (Spot.behind (stepsTo path))) :
    (memberLeaves path members).map located =
      (memberSpots members).map (Spot.behind (stepsTo path)) := by
  induction members with
  | nil => rfl
  | cons entry rest ih =>
    obtain ⟨key, value⟩ := entry
    rw [List.map_cons, List.forall_mem_cons] at plain
    rw [List.forall_mem_cons] at each
    obtain ⟨⟨filled, undotted, named⟩, plainRest⟩ := plain
    have step : Step.ofSegment key.toList = .key key := by
      rw [Step.ofSegment, named, String.ofList_toList]
    have first : (leaves (joinPath path key) value).map located =
        value.spots.map (Spot.behind (stepsTo path ++ [.key key])) := by
      rw [each.1 _ (joinPath_ne_empty path filled), stepsTo_joinPath path undotted filled, step]
    rw [memberLeaves, memberSpots, List.map_append, List.map_append, first, map_behind_below,
      ih plainRest each.2]

/-- **The leaves of a value are its spots**, under the paths that spell their steps. -/
theorem map_located_leaves (addressable : value.Addressable) (filled : path ≠ "") :
    (leaves path value).map located = value.spots.map (Spot.behind (stepsTo path)) := by
  induction value using induct generalizing path with
  | null => rfl
  | leaf leaf ends =>
    rw [leaves_leaf ends filled, spots_leaf ends, List.map_singleton, List.map_singleton, located,
      Spot.behind, stepsTo, if_neg filled, List.append_nil]
  | array items some ih =>
    rw [leaves_array some, spots_array some]
    refine map_located_itemLeaves ?_ fun item named path filled =>
      ih item named (addressable.item named) filled
    rw [Nat.zero_add]
    exact addressable.length_le
  | object members some ih =>
    rw [leaves_object some, spots_object some]
    exact map_located_memberLeaves addressable.keys.2 fun entry named path filled =>
      ih entry named (addressable.member named) filled

/-- The leaves of a whole object are its spots. -/
theorem map_located_leaves_object (addressable : (object members).Addressable)
    (filled : members ≠ []) :
    (leaves "" (object members)).map located = (object members).spots := by
  rw [leaves_object filled, spots_object filled]
  refine (map_located_memberLeaves addressable.keys.2 fun entry named path filled =>
    map_located_leaves (addressable.member named) filled).trans ?_
  exact List.map_id _

end Leaves

/-! ## Part 3 — fields -/

section Fields

variable {members : List (String × Json)} {bound : Nat} {target built : Json}
  {todo : List (String × Json)}

/-- No two leaves have a path in common. -/
theorem nodup_paths (addressable : (object members).Addressable) :
    ((leaves "" (object members)).map Prod.fst).Nodup := by
  by_cases filled : members = []
  · rw [filled]
    exact .nil
  · have parted : ((leaves "" (object members)).map located).Pairwise Spot.Parts := by
      rw [map_located_leaves_object addressable filled]
      exact addressable.pairwise_spots
    refine List.pairwise_map.mpr ((List.pairwise_map.mp parted).imp fun parting same => ?_)
    exact parting.ne (congrArg steps same)

theorem nodup_fields (addressable : (object members).Addressable) :
    (((leaves "" (object members)).map storedLeaf).map Prod.fst).Nodup := by
  have keys : ((leaves "" (object members)).map storedLeaf).map Prod.fst =
      ((leaves "" (object members)).map Prod.fst).map Bytes.ofString := by
    rw [List.map_map, List.map_map]
    rfl
  rw [keys]
  exact (nodup_paths addressable).map fun _ _ => Bytes.ofString_inj.mp

/-- The fields of a value are its leaves, in some order. -/
theorem exists_perm_leaves (addressable : (object members).Addressable) :
    ∃ todo : List (String × Json), todo.Perm (leaves "" (object members)) ∧
      (flatten (object members)).entries = todo.map storedLeaf := by
  have perm := ByteMap.perm_entries_ofList (nodup_fields addressable)
  have stored : List.Forall₂ (fun entry leaf => entry = storedLeaf leaf)
      ((leaves "" (object members)).map storedLeaf) (leaves "" (object members)) :=
    List.forall₂_map_left_iff.mpr (List.forall₂_same.mpr fun _ _ => rfl)
  -- the fields stand in the order of their bytes, the leaves in that of the value
  obtain ⟨todo, fields, order⟩ := List.perm_comp_forall₂ perm stored
  have equal : List.Forall₂ Eq (flatten (object members)).entries (todo.map storedLeaf) :=
    List.forall₂_map_right_iff.mpr fields
  rw [List.forall₂_eq_eq_eq] at equal
  exact ⟨todo, order, equal⟩

theorem size_flatten (addressable : (object members).Addressable) :
    (flatten (object members)).size = (leaves "" (object members)).length := by
  rw [flatten, ByteMap.size_ofList (nodup_fields addressable), List.length_map]

/-- A stored leaf is read from its text and then put in place. -/
theorem placeField_storedLeaf (bound : Nat) (target : Json) (leaf : String × Json) :
    placeField bound target (storedLeaf leaf).1 (storedLeaf leaf).2 =
      match Json.read (Bytes.ofString leaf.2.render) with
      | .error error => .error (.invalidValue leaf.1 error)
      | .ok held =>
        match Json.place bound held (steps leaf.1) target with
        | some placed => .ok placed
        | none => .error (.invalidField (Bytes.ofString leaf.1)) := by
  cases parsed : Json.read (Bytes.ofString leaf.2.render) with
  | error error => simp [placeField, storedLeaf, Bytes.toText?_ofString, parsed]
  | ok held =>
    cases placed : Json.place bound held (steps leaf.1) target <;>
      simp [placeField, storedLeaf, Bytes.toText?_ofString, parsed, placed]

/-- **To rebuild a value is to put the leaves of its fields in place.** -/
theorem rebuild_of_placeAll
    (readable : ∀ leaf ∈ todo, Json.read (Bytes.ofString leaf.2.render) = .ok leaf.2)
    (done : placeAll bound (todo.map located) target = some built) :
    (todo.map storedLeaf).foldlM (fun value field => placeField bound value field.1 field.2)
      target = .ok built := by
  induction todo generalizing target with
  | nil =>
    cases done
    rfl
  | cons leaf todo ih =>
    rw [List.forall_mem_cons] at readable
    rw [placeAll, List.map_cons, List.foldlM_cons] at done
    obtain ⟨placed, first, rest⟩ := Option.bind_eq_some_iff.mp done
    have stored : placeField bound target (storedLeaf leaf).1 (storedLeaf leaf).2 = .ok placed := by
      have here : Json.place bound leaf.2 (steps leaf.1) target = some placed := first
      rw [placeField_storedLeaf, readable.1]
      dsimp only
      rw [here]
    rw [List.map_cons, List.foldlM_cons, stored]
    exact ih readable.2 rest

end Fields

/-! ## Part 4 — objects -/

section Objects

variable {type : EntityType} {members : List (String × Json)} {entity : Entity}

/-- The id of a type names something in the value, if the type declares one. -/
def Identified (schema : Schema) (value : Json) : Prop :=
  ∀ property, schema.idProperty? = some property →
    ∃ named, value.lookup property.path = some named ∧ named.vanishes = false

/-- Each leaf of the value is read from its text. -/
def Readable (value : Json) : Prop :=
  ∀ spot ∈ value.spots, Json.read (Bytes.ofString spot.2.render) = .ok spot.2

/-- **The fields of an object rebuild it**, without what vanishes, and its leaves are where they
were. -/
theorem exists_rebuilt (legible : (object members).Legible)
    (readable : Readable (object members)) :
    ∃ built, rebuild (flatten (object members)) = .ok built ∧
      Alike built (object members).pruned ∧
      (members ≠ [] → ∀ spot ∈ (object members).spots, follow spot.1 built = some spot.2) := by
  by_cases filled : members = []
  · -- an empty object is a leaf, but as a whole it has no path and no field
    subst filled
    exact ⟨.object [], rfl, .same _, fun some => (some rfl).elim⟩
  obtain ⟨todo, order, fields⟩ := exists_perm_leaves legible.addressable
  have spots : (todo.map located).Perm (object members).spots := by
    rw [← map_located_leaves_object legible.addressable filled]
    exact order.map located
  obtain ⟨built, done, alike, found⟩ := exists_regrown legible spots
  have readableTodo : ∀ leaf ∈ todo, Json.read (Bytes.ofString leaf.2.render) = .ok leaf.2 :=
    fun leaf listed => readable _ (spots.mem_iff.mp (List.mem_map_of_mem listed))
  have bound : (flatten (object members)).size = (todo.map located).length := by
    rw [size_flatten legible.addressable, List.length_map, order.length_eq]
  refine ⟨built, ?_, alike, fun _ => found⟩
  rw [rebuild, fields, bound]
  exact rebuild_of_placeAll readableTodo done

/-- An id that is there already is left as it is. -/
theorem attachId_eq_self {schema : Schema} {record : Record} {built : Json}
    (identified : Identified schema (object members))
    (found : members ≠ [] → ∀ spot ∈ (object members).spots, follow spot.1 built = some spot.2) :
    attachId schema record built = .ok built := by
  rw [attachId]
  cases declared : schema.idProperty? with
  | none => rfl
  | some property =>
    obtain ⟨named, there, stays⟩ := identified property declared
    obtain ⟨spot, held⟩ := exists_spot stays
    have listed := mem_spots_of_follow there held
    have filled : members ≠ [] := by
      rintro rfl
      have here := congrArg Prod.fst (List.mem_singleton.mp listed)
      exact steps_ne_nil _ (List.append_eq_nil_iff.mp here).1
    have reached := found filled _ listed
    rw [follow_append] at reached
    obtain ⟨held, known, _⟩ := Option.bind_eq_some_iff.mp reached
    exact if_pos (Option.isSome_iff_exists.mpr ⟨held, known⟩)

/-- **What is written is read back.** The only thing in the way of a write is a position that is no
point. What is read has the shape of a value that is the written one, but for what vanishes and for
the order of members. -/
structure Restored (type : EntityType) (entity : Entity) (value : Json) : Prop where
  written : entity.write type.schema =
    (positionEntries type.schema value).map fun positions => {
      record := ⟨entity.id.bytes, type.schema.keyspace, flatten value⟩
      indexes := indexEntries type.schema value
      positions := positions }
  read : ∃ built, rebuild (flatten value) = .ok built ∧ Alike built value.pruned ∧
    ∀ record, record.fields = flatten value → attachId type.schema record built = .ok built ∧
      type.read record = (type.shape.read built).mapError .deserialize

theorem restored_of_legible (legible : (object members).Legible)
    (readable : Readable (object members)) (identified : Identified type.schema (object members))
    (form : entity.form = .ok (object members)) : Restored type entity (object members) where
  written := by
    rw [Entity.write, form]
    dsimp only
    rw [if_pos (show (object members).kind = .map from rfl)]
    cases positionEntries type.schema (object members) <;> rfl
  read := by
    obtain ⟨built, done, alike, found⟩ := exists_rebuilt legible readable
    refine ⟨built, done, alike, fun record same => ?_⟩
    have attached : attachId type.schema record built = .ok built :=
      attachId_eq_self identified found
    refine ⟨attached, ?_⟩
    rw [EntityType.read, same, done]
    show (attachId type.schema record built >>= fun value =>
      (type.shape.read value).mapError .deserialize) = _
    rw [attached]
    rfl

end Objects

/-- A member with more tags than digits, games within games, and things that are not known. -/
def gambler : List (String × Json) :=
  [("id", .text "7"), ("firstname", .text "Mat"), ("age", .number (.ofInt 20)),
    ("luck", .number (.double 0.5)),
    ("tags", .array (["a", "b", "c", "d", "e", "f", "g", "h", "i", "j", "k", "l"].map .text)),
    ("address", .object [("zip", .null), ("city", .text "Tear"), ("past", .object [("x", .null)])]),
    ("games", .array [.array [.boolean true, .object []], .array [], .object [("won", .null),
      ("lost", .array [.number (.ofInt (-3))])]]),
    ("debts", .object [("old", .null), ("new", .object [("owed", .null)])])]

theorem restored_gambler :
    (object gambler).Legible ∧ Readable (object gambler) ∧
      Identified Samples.member.schema (object gambler) ∧
      Restored Samples.member ⟨.ok (object gambler), .ofString "7"⟩ (object gambler) := by
  have legible : (object gambler).Legible := by decide +kernel
  have readable : Readable (object gambler) := by
    have each : ∀ spot ∈ (object gambler).spots,
        Json.read (Bytes.ofString spot.2.render) = .ok spot.2 := by decide +kernel
    exact each
  have identified : Identified Samples.member.schema (object gambler) := by
    intro property declared
    have known : Samples.member.schema.idProperty? = some ⟨"id", .identifier⟩ := by decide +kernel
    cases known.symm.trans declared
    exact ⟨.text "7", by decide +kernel, rfl⟩
  exact ⟨legible, readable, identified, restored_of_legible legible readable identified rfl⟩

example : (object gambler).pruned = .object
    [("id", .text "7"), ("firstname", .text "Mat"), ("age", .number (.ofInt 20)),
      ("luck", .number (.double 0.5)),
      ("tags", .array (["a", "b", "c", "d", "e", "f", "g", "h", "i", "j", "k", "l"].map .text)),
      ("address", .object [("city", .text "Tear")]),
      ("games", .array [.array [.boolean true, .object []], .array [],
        .object [("lost", .array [.number (.ofInt (-3))])]])] := by
  decide +kernel

end SecondaryIndex
