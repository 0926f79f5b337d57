/-
**Which leaves have a field of their own.**

A field is named by the segments on the way to a leaf, joined by dots, and no dot stands behind an
empty path. So two ways may lead to one field, and a leaf behind empty keys has none:

* `leaves_eq` — the leaves of a value are its spots under the paths of their steps, those with an
  empty path left out, whatever the keys are;
* `get?_flatten` — a field holds the last leaf with its path;
* `Json.Separate` — the spots of some members have paths of their own, and `separate_of_separable` —
  they do if all keys have characters, and no dot among them;
* `Json.Keeps` — each leaf has a field of its own, and there is no other field;
* `keeps_iff_separate` — this is so exactly if their paths are separate, and exactly if there are as
  many fields as leaves; there are never more.
-/

import SecondaryIndex.Proofs.Entity.RoundTrip

namespace SecondaryIndex

open Json

/-! ## Part 1 — paths -/

/-- The segment that spells a step. -/
def Json.Step.segment : Step → String
  | .key name => name
  | .index position => indexSegment position

/-- A path with some more steps. -/
def joinSteps (path : String) (steps : List Step) : String :=
  steps.foldl (fun path step => joinPath path step.segment) path

/-- The path of a spot. -/
def Json.Spot.path (spot : Spot) : String :=
  joinSteps "" spot.1

/-- The leaf at a spot with its path, seen from a path. -/
def Json.Spot.leafBehind (path : String) (spot : Spot) : String × Json :=
  (joinSteps path spot.1, spot.2)

section Paths

variable {path segment : String} {steps others : List Step} {step : Step} {position index : Nat}

theorem joinSteps_append (path : String) (steps : List Step) (step : Step) :
    joinSteps path (steps ++ [step]) = joinPath (joinSteps path steps) step.segment := by
  rw [joinSteps, List.foldl_append]
  rfl

theorem joinSteps_ne_empty (path : String) (some : steps ≠ [])
    (filled : ∀ step ∈ steps, step.segment ≠ "") : joinSteps path steps ≠ "" := by
  rw [← List.dropLast_append_getLast some, joinSteps_append]
  exact joinPath_ne_empty _ (filled _ (List.getLast_mem some))

theorem toList_joinSteps_of_filled (filled : path ≠ "") (steps : List Step) :
    (joinSteps path steps).toList =
      ['.'].intercalate (path.toList :: steps.map fun step => step.segment.toList) := by
  induction steps generalizing path with
  | nil => exact List.intercalate_singleton.symm
  | cons step steps ih =>
    have longer : joinPath path step.segment = path ++ "." ++ step.segment := if_neg filled
    have chars : (joinPath path step.segment).toList =
        path.toList ++ '.' :: step.segment.toList := by
      rw [longer, String.toList_append, String.toList_append, List.append_assoc]
      rfl
    have still : joinPath path step.segment ≠ "" := by
      intro empty
      rw [empty] at chars
      simp at chars
    show (joinSteps (joinPath path step.segment) steps).toList = _
    rw [ih still, chars, List.map_cons, List.intercalate_cons_cons]
    -- the first of the rest is put behind the path, whatever follows it
    cases steps <;> simp [List.intercalate_cons_cons]

/-- A path is what its segments are with dots between them. -/
theorem toList_joinSteps (filled : ∀ step ∈ steps, step.segment ≠ "") :
    (joinSteps "" steps).toList =
      ['.'].intercalate (steps.map fun step => step.segment.toList) := by
  cases steps with
  | nil => rfl
  | cons step steps => exact toList_joinSteps_of_filled (filled step List.mem_cons_self) steps

/-- The segments of a path that is joined from steps are the segments of the steps. -/
theorem segments_joinSteps (some : steps ≠ [])
    (clear : ∀ step ∈ steps, step.segment ≠ "" ∧ '.' ∉ step.segment.toList) :
    segments (joinSteps "" steps) = steps.map fun step => step.segment.toList := by
  rw [segments, toList_joinSteps fun step taken => (clear step taken).1]
  refine List.splitOn_intercalate '.' ?_ fun none => some (List.map_eq_nil_iff.mp none)
  intro segment listed
  obtain ⟨step, taken, rfl⟩ := List.mem_map.mp listed
  exact (clear step taken).2

theorem indexSegment_inj : indexSegment position = indexSegment index ↔ position = index := by
  refine ⟨fun same => ?_, fun same => same ▸ rfl⟩
  have chars := congrArg String.toList same
  rw [toList_indexSegment, toList_indexSegment] at chars
  have digits : Nat.toDigits 10 position = Nat.toDigits 10 index :=
    List.append_cancel_right (List.cons.inj chars).2
  rw [← Nat.ofDigitChars_ten_toDigits (n := position), digits, Nat.ofDigitChars_ten_toDigits]

/-- Where two ways part, their segments differ: both go on to items there, or both to members. -/
theorem Json.Parting.segments_ne (parting : Parting steps others) :
    (steps.map fun step => step.segment.toList) ≠ others.map fun step => step.segment.toList := by
  induction parting with
  | items different =>
    intro same
    exact different (indexSegment_inj.mp (String.toList_inj.mp (List.cons.inj same).1))
  | members different =>
    exact fun same => different (String.toList_inj.mp (List.cons.inj same).1)
  | further step _ ih => exact fun same => ih (List.cons.inj same).2

end Paths

/-! ## Part 2 — leaves -/

section Leaves

variable {path : String} {value : Json} {items : List Json} {members : List (String × Json)}
  {start : Nat} {spots : List Spot}

/-- The leaves at some spots, seen from a path; without a path there is no leaf. -/
def leavesAt (path : String) (spots : List Spot) : List (String × Json) :=
  (spots.map (Spot.leafBehind path)).filter fun leaf => leaf.1 ≠ ""

theorem leavesAt_append (path : String) (first second : List Spot) :
    leavesAt path (first ++ second) = leavesAt path first ++ leavesAt path second := by
  rw [leavesAt, List.map_append, List.filter_append]
  rfl

theorem leavesAt_below (path : String) (step : Step) (spots : List Spot) :
    leavesAt path (spots.map (Spot.below step)) =
      leavesAt (joinPath path step.segment) spots := by
  rw [leavesAt, List.map_map]
  rfl

theorem itemLeaves_eq
    (each : ∀ item ∈ items, ∀ path, leaves path item = leavesAt path item.spots) :
    itemLeaves path start items = leavesAt path (itemSpots start items) := by
  induction items generalizing start with
  | nil => rfl
  | cons item rest ih =>
    rw [List.forall_mem_cons] at each
    rw [itemLeaves, itemSpots, leavesAt_append, leavesAt_below, ih each.2, each.1]
    rfl

theorem memberLeaves_eq
    (each : ∀ entry ∈ members, ∀ path, leaves path entry.2 = leavesAt path entry.2.spots) :
    memberLeaves path members = leavesAt path (memberSpots members) := by
  induction members with
  | nil => rfl
  | cons entry rest ih =>
    rw [List.forall_mem_cons] at each
    rw [memberLeaves, memberSpots, leavesAt_append, leavesAt_below, ih each.2, each.1]
    rfl

/-- **The leaves of a value stand at its spots**, under the paths of their steps. -/
theorem leaves_eq (path : String) (value : Json) : leaves path value = leavesAt path value.spots := by
  induction value using induct generalizing path with
  | null => rfl
  | leaf leaf ends =>
    rw [spots_leaf ends]
    by_cases none : path = ""
    · subst none
      exact match leaf, ends with
        | .boolean _, _ | .number _, _ | .text _, _ | .array [], _ | .object [], _ => rfl
    · rw [leaves_leaf ends none]
      simp [leavesAt, Spot.leafBehind, joinSteps, none]
  | array items filled ih =>
    rw [leaves_array filled, spots_array filled]
    exact itemLeaves_eq fun item named path => ih item named path
  | object members filled ih =>
    rw [leaves_object filled, spots_object filled]
    exact memberLeaves_eq fun entry named path => ih entry named path

/-- As a whole an object has no path, so it is no leaf of its own. -/
theorem leaves_object_eq (members : List (String × Json)) :
    leaves "" (object members) = leavesAt "" (memberSpots members) := by
  rw [leaves_eq]
  cases members with
  | nil => rfl
  | cons entry rest => rw [spots_object (List.cons_ne_nil _ _)]

end Leaves

/-! ## Part 3 — fields -/

/-- Each of the leaves has a path, and one of its own. -/
structure Json.Separate (members : List (String × Json)) : Prop where
  filled : ∀ spot ∈ memberSpots members, spot.path ≠ ""
  nodup : ((memberSpots members).map Spot.path).Nodup

/-- The keys have characters, and no dot among them. -/
def Json.Separable (value : Json) : Prop :=
  ∀ part ∈ value.parts, ∀ key ∈ part.membersOf.map Prod.fst, key ≠ "" ∧ '.' ∉ key.toList

instance (value : Json) : Decidable value.Separable :=
  inferInstanceAs (Decidable (∀ part ∈ value.parts, ∀ key ∈ part.membersOf.map Prod.fst,
    key ≠ "" ∧ '.' ∉ key.toList))

/-- **No leaf is lost.** Each has a field that holds its text, no two have the same, and there are no
other fields. -/
structure Json.Keeps (members : List (String × Json)) : Prop where
  held : ∀ spot ∈ memberSpots members,
    (flatten (object members)).get? (Bytes.ofString spot.path) =
      some (Bytes.ofString spot.2.render)
  nodup : ((memberSpots members).map fun spot => Bytes.ofString spot.path).Nodup
  size : (flatten (object members)).size = (memberSpots members).length

section Fields

variable {members : List (String × Json)} {value : Json} {spot : Spot} {field content : Bytes}

theorem leavesAt_reverse (path : String) (spots : List Spot) :
    (leavesAt path spots).reverse = leavesAt path spots.reverse := by
  rw [leavesAt, leavesAt, List.map_reverse, List.filter_reverse]

theorem lookup_leavesAt (field : Bytes) (spots : List Spot) :
    ((leavesAt "" spots).map storedLeaf).lookup field =
      (spots.find? fun spot => spot.path ≠ "" ∧ Bytes.ofString spot.path = field).map
        fun spot => Bytes.ofString spot.2.render := by
  induction spots with
  | nil => rfl
  | cons spot spots ih =>
    have split : leavesAt "" (spot :: spots) = leavesAt "" [spot] ++ leavesAt "" spots :=
      leavesAt_append "" [spot] spots
    rw [split, List.map_append]
    by_cases none : spot.path = ""
    · have lost : leavesAt "" [spot] = [] := by
        have gone : joinSteps "" spot.1 = "" := none
        simp [leavesAt, Spot.leafBehind, gone]
      rw [lost, List.map_nil, List.nil_append, ih, List.find?_cons_of_neg (by simp [none])]
    · have kept : leavesAt "" [spot] = [(spot.path, spot.2)] := by
        have filled : joinSteps "" spot.1 ≠ "" := none
        simp [leavesAt, Spot.leafBehind, Spot.path, filled]
      rw [kept, List.map_singleton, List.singleton_append, storedLeaf, Entries.lookup_cons_eq, ih]
      by_cases here : Bytes.ofString spot.path = field
      · rw [if_pos here.symm, List.find?_cons_of_pos (by simp [none, here])]
        rfl
      · rw [if_neg (Ne.symm here), List.find?_cons_of_neg (by simp [here])]

/-- **A field holds the last leaf with its path.** -/
theorem get?_flatten (members : List (String × Json)) (field : Bytes) :
    (flatten (object members)).get? field =
      ((memberSpots members).reverse.find? fun spot =>
        spot.path ≠ "" ∧ Bytes.ofString spot.path = field).map fun spot =>
          Bytes.ofString spot.2.render := by
  rw [flatten, ByteMap.get?_ofList_eq_lookup_reverse, leaves_object_eq, ← List.map_reverse,
    leavesAt_reverse, lookup_leavesAt]

/-- What a field holds is the text of a leaf with its path. -/
theorem exists_spot_of_get?_flatten
    (held : (flatten (object members)).get? field = some content) :
    ∃ spot ∈ memberSpots members, Bytes.ofString spot.path = field ∧
      Bytes.ofString spot.2.render = content := by
  rw [get?_flatten] at held
  obtain ⟨spot, found, text⟩ := Option.map_eq_some_iff.mp held
  have named := List.find?_some (p := fun spot : Spot => decide (spot.path ≠ "" ∧
    Bytes.ofString spot.path = field)) found
  exact ⟨spot, List.mem_reverse.mp (List.mem_of_find?_eq_some found), (of_decide_eq_true named).2,
    text⟩

/-- Separate leaves are all listed, in their order. -/
theorem Json.Separate.leavesAt_eq (separate : Separate members) :
    leavesAt "" (memberSpots members) = (memberSpots members).map (Spot.leafBehind "") := by
  refine List.filter_eq_self.mpr fun leaf listed => ?_
  obtain ⟨spot, named, rfl⟩ := List.mem_map.mp listed
  exact decide_eq_true (separate.filled spot named)

theorem length_leavesAt_le (path : String) (spots : List Spot) :
    (leavesAt path spots).length ≤ spots.length := by
  have kept := List.length_filter_le (fun leaf : String × Json => decide (leaf.1 ≠ ""))
    (spots.map (Spot.leafBehind path))
  rwa [List.length_map] at kept

theorem size_flatten_le_length_leavesAt (members : List (String × Json)) :
    (flatten (object members)).size ≤ (leavesAt "" (memberSpots members)).length := by
  have most := ByteMap.size_ofList_le ((leavesAt "" (memberSpots members)).map storedLeaf)
  rw [List.length_map] at most
  rwa [flatten, leaves_object_eq]

theorem size_flatten_le (members : List (String × Json)) :
    (flatten (object members)).size ≤ (memberSpots members).length :=
  Nat.le_trans (size_flatten_le_length_leavesAt members) (length_leavesAt_le "" _)

/-- The fields of separate leaves are the paths of their spots. -/
theorem map_fst_storedLeaf (members : List (String × Json)) :
    (((memberSpots members).map (Spot.leafBehind "")).map storedLeaf).map Prod.fst =
      ((memberSpots members).map Spot.path).map Bytes.ofString := by
  rw [List.map_map, List.map_map, List.map_map]
  rfl

/-- **There are as many fields as leaves exactly if these are separate.** -/
theorem size_flatten_eq_iff :
    (flatten (object members)).size = (memberSpots members).length ↔ Separate members := by
  constructor
  · intro all
    have whole : (leavesAt "" (memberSpots members)).length =
        ((memberSpots members).map (Spot.leafBehind "")).length := by
      refine Nat.le_antisymm (List.length_filter_le ..) ?_
      rw [List.length_map, ← all]
      exact size_flatten_le_length_leavesAt members
    have kept := List.length_filter_eq_length_iff.mp whole
    have same : leavesAt "" (memberSpots members) =
        (memberSpots members).map (Spot.leafBehind "") := List.filter_eq_self.mpr kept
    rw [flatten, leaves_object_eq, same] at all
    have nodup := ByteMap.size_ofList_eq_length_iff.mp
      (all.trans (by rw [List.length_map, List.length_map]))
    rw [map_fst_storedLeaf] at nodup
    exact ⟨fun spot listed => of_decide_eq_true (kept _ (List.mem_map_of_mem listed)),
      nodup.of_map _⟩
  · intro separate
    rw [flatten, leaves_object_eq, separate.leavesAt_eq, ByteMap.size_ofList, List.length_map,
      List.length_map]
    rw [map_fst_storedLeaf]
    exact separate.nodup.map fun _ _ => Bytes.ofString_inj.mp

theorem Json.Separate.get?_flatten (separate : Separate members)
    (listed : spot ∈ memberSpots members) :
    (flatten (object members)).get? (Bytes.ofString spot.path) =
      some (Bytes.ofString spot.2.render) := by
  rw [SecondaryIndex.get?_flatten]
  have test : ∀ other ∈ (memberSpots members).reverse,
      (decide (other.path ≠ "" ∧ Bytes.ofString other.path = Bytes.ofString spot.path)) = true ↔
        other = spot := by
    intro other named
    rw [List.mem_reverse] at named
    rw [decide_eq_true_iff, Bytes.ofString_inj]
    constructor
    · exact fun same => List.inj_on_of_nodup_map separate.nodup named listed same.2
    · rintro rfl
      exact ⟨separate.filled other named, rfl⟩
  obtain ⟨other, found⟩ : ∃ other, (memberSpots members).reverse.find? (fun other =>
      other.path ≠ "" ∧ Bytes.ofString other.path = Bytes.ofString spot.path) = some other := by
    rw [← Option.isSome_iff_exists, List.find?_isSome]
    have member := List.mem_reverse.mpr listed
    exact ⟨spot, member, (test spot member).mpr rfl⟩
  have holds := List.find?_some (p := fun other : Spot => decide (other.path ≠ "" ∧
    Bytes.ofString other.path = Bytes.ofString spot.path)) found
  rw [found, (test other (List.mem_of_find?_eq_some found)).mp holds]
  rfl

/-- The segments of the ways to the leaves are those of indexes and of keys. -/
theorem Json.Separable.clear (separable : value.Separable) (listed : spot ∈ value.spots) :
    ∀ step ∈ spot.1, step.segment ≠ "" ∧ '.' ∉ step.segment.toList := by
  induction value using induct generalizing spot with
  | null => exact (List.not_mem_nil listed).elim
  | leaf leaf ends =>
    rw [spots_leaf ends, List.mem_singleton] at listed
    rw [listed]
    exact fun _ taken => (List.not_mem_nil taken).elim
  | array items filled ih =>
    obtain ⟨position, item, found, inner, held, rfl⟩ := (mem_spots_array filled).mp listed
    have named := List.mem_of_getElem? found
    refine List.forall_mem_cons.mpr ⟨⟨indexSegment_ne_empty, undotted_indexSegment⟩, ?_⟩
    exact ih item named (fun part inside => separable part (mem_parts_array named inside)) held
  | object members filled ih =>
    obtain ⟨entry, named, inner, held, rfl⟩ := (mem_spots_object filled).mp listed
    refine List.forall_mem_cons.mpr ⟨?_, ?_⟩
    · exact separable (object members) List.mem_cons_self _ (List.mem_map_of_mem named)
    · exact ih entry named (fun part inside => separable part (mem_parts_object named inside)) held

/-- **Keys with characters, and no dot among them, keep leaves separate.** -/
theorem separate_of_separable (distinct : (object members).Distinct)
    (separable : (object members).Separable) : Separate members := by
  by_cases none : members = []
  · subst none
    exact ⟨fun _ listed => (List.not_mem_nil listed).elim, .nil⟩
  have spots : (object members).spots = memberSpots members := spots_object none
  have some : ∀ spot ∈ memberSpots members, spot.1 ≠ [] := by
    intro spot listed
    obtain ⟨_, _, _, _, rfl⟩ := mem_memberSpots.mp listed
    exact List.cons_ne_nil _ _
  have clear : ∀ spot ∈ memberSpots members,
      ∀ step ∈ spot.1, step.segment ≠ "" ∧ '.' ∉ step.segment.toList := fun spot listed =>
    separable.clear (spots ▸ listed)
  refine ⟨fun spot listed => joinSteps_ne_empty "" (some spot listed) fun step taken =>
    (clear spot listed step taken).1, ?_⟩
  have parted : (memberSpots members).Pairwise Spot.Parts := spots ▸ distinct.pairwise_spots
  refine List.pairwise_map.mpr (parted.imp_of_mem fun first second parting same => ?_)
  have segments := congrArg segments same
  rw [Spot.path, Spot.path, segments_joinSteps (some _ first) (clear _ first),
    segments_joinSteps (some _ second) (clear _ second)] at segments
  exact parting.segments_ne segments

/-- **No leaf is lost exactly if each has a path of its own**, and there are as many fields as leaves
only then. Keys with characters and without dots are enough for it. -/
theorem keeps_iff_separate (members : List (String × Json)) :
    (flatten (object members)).size ≤ (memberSpots members).length ∧
      ((flatten (object members)).size = (memberSpots members).length ↔ Separate members) ∧
      (Keeps members ↔ Separate members) ∧
      ((object members).Distinct → (object members).Separable → Keeps members) := by
  have keeps (separate : Separate members) : Keeps members := by
    refine ⟨fun spot => separate.get?_flatten, ?_, size_flatten_eq_iff.mpr separate⟩
    have fields : ((memberSpots members).map fun spot => Bytes.ofString spot.path) =
        ((memberSpots members).map Spot.path).map Bytes.ofString := by
      rw [List.map_map]
      rfl
    rw [fields]
    exact separate.nodup.map fun _ _ => Bytes.ofString_inj.mp
  exact ⟨size_flatten_le members, size_flatten_eq_iff,
    ⟨fun kept => size_flatten_eq_iff.mp kept.size, keeps⟩,
    fun distinct separable => keeps (separate_of_separable distinct separable)⟩

end Fields

/-- A town with names in brackets, some of them in lists. -/
def bracketed : List (String × Json) :=
  [("id", .text "tear"), ("[1]", .array [.null, .text "port"]),
    ("names", .object [("[0]", .text "Stone"), ("old", .array []), ("none", .object [])])]

theorem keeps_iff_separate_bracketed :
    (object bracketed).Distinct ∧ (object bracketed).Separable ∧
      (flatten (object bracketed)).size = 5 ∧ Separate bracketed ∧ Keeps bracketed := by
  have distinct : (object bracketed).Distinct := by
    simp [bracketed, Distinct, DistinctMembers, DistinctItems]
  have separable : (object bracketed).Separable := by decide
  obtain ⟨_, _, kept, keeps⟩ := keeps_iff_separate bracketed
  exact ⟨distinct, separable, by decide +kernel, kept.mp (keeps distinct separable),
    keeps distinct separable⟩

/-- A town with something behind an empty key. -/
def nameless : List (String × Json) :=
  [("id", .text "tear"), ("", .text "lost")]

/-- A town in which a key spells the way to something else. -/
def misspelled : List (String × Json) :=
  [("id", .text "tear"), ("land", .object [("name", .text "tear")]), ("land.name", .text "illian")]

/-- **Leaves are lost**: one behind an empty key has no field, and of two with one path only the later
is kept. -/
theorem not_keeps_nameless_misspelled :
    (object nameless).Distinct ∧ (memberSpots nameless).length = 2 ∧
      (flatten (object nameless)).entries =
        [(Bytes.ofString "id", Bytes.ofString "\"tear\"")] ∧ ¬ Keeps nameless ∧
      (object misspelled).Distinct ∧ (memberSpots misspelled).length = 3 ∧
      (flatten (object misspelled)).entries =
        [(Bytes.ofString "id", Bytes.ofString "\"tear\""),
          (Bytes.ofString "land.name", Bytes.ofString "\"illian\"")] ∧ ¬ Keeps misspelled := by
  have first : (flatten (object nameless)).entries =
      [(Bytes.ofString "id", Bytes.ofString "\"tear\"")] := by
    decide +kernel
  have second : (flatten (object misspelled)).entries =
      [(Bytes.ofString "id", Bytes.ofString "\"tear\""),
        (Bytes.ofString "land.name", Bytes.ofString "\"illian\"")] := by
    decide +kernel
  refine ⟨?_, rfl, first, fun kept => ?_, ?_, rfl, second, fun kept => ?_⟩
  · simp [nameless, Distinct, DistinctMembers]
  · have size := kept.size
    rw [ByteMap.size, first] at size
    cases size
  · simp [misspelled, Distinct, DistinctMembers]
  · have size := kept.size
    rw [ByteMap.size, second] at size
    cases size

end SecondaryIndex
