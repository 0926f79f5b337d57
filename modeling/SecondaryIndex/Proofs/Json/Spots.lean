/-
**The leaves of a JSON value, and the steps that lead to them.**

Scalars and empty containers are leaves, and null is none. What has no leaf inside leaves no trace.

* `Json.spots` lists the leaves with their steps;
* `Json.vanishes` — a value without leaves, and `Json.pruned` is a value without such members;
* `Json.Alike` — equality up to the order of members;
* `Json.Addressable` — keys that can be told apart behind dots, so each leaf has a path of its own;
* `Json.Legible` — an addressable value in which no item vanishes;
* `Distinct.pairwise_spots` — the steps to two leaves part somewhere, at two items or at two
  members;
* `Legible.lt_length_spots` — no index on the way to a leaf reaches the number of leaves.
-/

import SecondaryIndex.Json.Path
import SecondaryIndex.Proofs.Collections
import SecondaryIndex.Proofs.Json.Distinct

namespace SecondaryIndex.Json

/-! ## Part 1 — values -/

/-- A scalar or an empty container. -/
def isLeaf : Json → Bool
  | .null => false
  | .array (_ :: _) => false
  | .object (_ :: _) => false
  | _ => true

/-- Induction over values, where leaves are one case. -/
@[elab_as_elim]
theorem induct {motive : Json → Prop} (null : motive .null)
    (leaf : ∀ leaf, leaf.isLeaf → motive leaf)
    (array : ∀ items, items ≠ [] → (∀ item ∈ items, motive item) → motive (.array items))
    (object : ∀ members, members ≠ [] → (∀ entry ∈ members, motive entry.2) →
      motive (.object members))
    (value : Json) : motive value := by
  refine @Json.rec motive (fun items => ∀ item ∈ items, motive item)
    (fun members => ∀ entry ∈ members, motive entry.2) (fun entry => motive entry.2)
    null (fun _ => leaf _ rfl) (fun _ => leaf _ rfl) (fun _ => leaf _ rfl)
    (fun items each => ?_) (fun members each => ?_) ?_ ?_ ?_ ?_ ?_ value
  · by_cases none : items = []
    · exact none ▸ leaf _ rfl
    · exact array items none each
  · by_cases none : members = []
    · exact none ▸ leaf _ rfl
    · exact object members none each
  · exact fun _ listed => (List.not_mem_nil listed).elim
  · exact fun _ _ first rest => List.forall_mem_cons.mpr ⟨first, rest⟩
  · exact fun _ listed => (List.not_mem_nil listed).elim
  · exact fun _ _ first rest => List.forall_mem_cons.mpr ⟨first, rest⟩
  · exact fun _ _ held => held

/-- A leaf and the steps that lead to it. -/
abbrev Spot := List Step × Json

/-- The spot seen from one step further out. -/
def Spot.below (step : Step) (spot : Spot) : Spot :=
  (step :: spot.1, spot.2)

mutual

/-- The leaves of a value, in their order. -/
def spots : Json → List Spot
  | .null => []
  | .array (item :: items) => itemSpots 0 (item :: items)
  | .object (member :: members) => memberSpots (member :: members)
  | leaf => [([], leaf)]

/-- The leaves of items, the first of them at `position`. -/
def itemSpots (position : Nat) : List Json → List Spot
  | [] => []
  | item :: rest => item.spots.map (Spot.below (.index position)) ++ itemSpots (position + 1) rest

/-- The leaves of members. -/
def memberSpots : List (String × Json) → List Spot
  | [] => []
  | (key, value) :: rest => value.spots.map (Spot.below (.key key)) ++ memberSpots rest

end

mutual

/-- The value is null, or it holds something and all that vanishes. -/
def vanishes : Json → Bool
  | .null => true
  | .array (item :: items) => itemsVanish (item :: items)
  | .object (member :: members) => membersVanish (member :: members)
  | _ => false

/-- All items vanish. -/
def itemsVanish : List Json → Bool
  | [] => true
  | item :: rest => item.vanishes && itemsVanish rest

/-- All members vanish. -/
def membersVanish : List (String × Json) → Bool
  | [] => true
  | (_, value) :: rest => value.vanishes && membersVanish rest

end

mutual

/-- The value without members that vanish, at any depth. -/
def pruned : Json → Json
  | .array items => .array (prunedItems items)
  | .object members => .object (prunedMembers members)
  | value => value

/-- Each item without members that vanish. -/
def prunedItems : List Json → List Json
  | [] => []
  | item :: rest => item.pruned :: prunedItems rest

/-- The members that do not vanish, each without members that vanish. -/
def prunedMembers : List (String × Json) → List (String × Json)
  | [] => []
  | (key, value) :: rest =>
    if value.vanishes then prunedMembers rest else (key, value.pruned) :: prunedMembers rest

end

/-- **Two values are equal up to the order of their members**, at every depth. -/
inductive Alike : Json → Json → Prop where
  | same (value : Json) : Alike value value
  | array {firsts seconds : List Json} (length : firsts.length = seconds.length)
      (items : ∀ (position : Nat) first second, firsts[position]? = some first →
        seconds[position]? = some second → Alike first second) :
      Alike (.array firsts) (.array seconds)
  | object {firsts seconds : List (String × Json)}
      (keys : (firsts.map Prod.fst).Perm (seconds.map Prod.fst))
      (members : ∀ key first second, (key, first) ∈ firsts → (key, second) ∈ seconds →
        Alike first second) :
      Alike (.object firsts) (.object seconds)

mutual

/-- The value and all values inside it. -/
def parts : Json → List Json
  | .array items => .array items :: itemParts items
  | .object members => .object members :: memberParts members
  | value => [value]

/-- The values inside items. -/
def itemParts : List Json → List Json
  | [] => []
  | item :: rest => item.parts ++ itemParts rest

/-- The values inside members. -/
def memberParts : List (String × Json) → List Json
  | [] => []
  | (_, value) :: rest => value.parts ++ memberParts rest

end

/-- A segment of a path that is taken for the key which it is. -/
def PlainKey (key : String) : Prop :=
  key ≠ "" ∧ '.' ∉ key.toList ∧ arrayIndex? key.toList = none

instance : DecidablePred PlainKey := fun key =>
  inferInstanceAs (Decidable (key ≠ "" ∧ '.' ∉ key.toList ∧ arrayIndex? key.toList = none))

/-- The keys of an object are plain, and there is one member for each; 64 bits hold the index of each
item of an array. -/
def Keyed : Json → Prop
  | .object members =>
    (members.map Prod.fst).Nodup ∧ ∀ key ∈ members.map Prod.fst, PlainKey key
  | .array items => items.length ≤ UInt64.size
  | _ => True

instance : DecidablePred Keyed
  | .object members => inferInstanceAs
      (Decidable ((members.map Prod.fst).Nodup ∧ ∀ key ∈ members.map Prod.fst, PlainKey key))
  | .array items => inferInstanceAs (Decidable (items.length ≤ UInt64.size))
  | .null | .boolean _ | .number _ | .text _ => inferInstanceAs (Decidable True)

/-- **Each leaf has a path of its own.** Items may vanish, and then they have none. -/
def Addressable (value : Json) : Prop :=
  ∀ part ∈ value.parts, part.Keyed

instance (value : Json) : Decidable value.Addressable :=
  inferInstanceAs (Decidable (∀ part ∈ value.parts, part.Keyed))

/-- The keys of an object are plain, and there is one member for each; no item of an array vanishes,
and 64 bits hold the index of each. -/
def Spelled : Json → Prop
  | .object members =>
    (members.map Prod.fst).Nodup ∧ ∀ key ∈ members.map Prod.fst, PlainKey key
  | .array items => items.length ≤ UInt64.size ∧ ∀ item ∈ items, item.vanishes = false
  | _ => True

instance : DecidablePred Spelled
  | .object members => inferInstanceAs
      (Decidable ((members.map Prod.fst).Nodup ∧ ∀ key ∈ members.map Prod.fst, PlainKey key))
  | .array items => inferInstanceAs
      (Decidable (items.length ≤ UInt64.size ∧ ∀ item ∈ items, item.vanishes = false))
  | .null | .boolean _ | .number _ | .text _ => inferInstanceAs (Decidable True)

/-- **Paths tell what is where in the value.** -/
def Legible (value : Json) : Prop :=
  ∀ part ∈ value.parts, part.Spelled

instance (value : Json) : Decidable value.Legible :=
  inferInstanceAs (Decidable (∀ part ∈ value.parts, part.Spelled))

/-! ## Part 2 — items and members -/

section Lists

variable {items : List Json} {members : List (String × Json)} {position : Nat} {spot : Spot}

theorem itemParts_eq : itemParts items = items.flatMap parts := by
  induction items with
  | nil => rfl
  | cons item rest ih => rw [itemParts, ih, List.flatMap_cons]

theorem memberParts_eq : memberParts members = members.flatMap fun entry => entry.2.parts := by
  induction members with
  | nil => rfl
  | cons entry rest ih => rw [memberParts, ih, List.flatMap_cons]

theorem prunedItems_eq : prunedItems items = items.map pruned := by
  induction items with
  | nil => rfl
  | cons item rest ih => rw [prunedItems, ih, List.map_cons]

theorem prunedMembers_eq : prunedMembers members =
    (members.filter fun entry => !entry.2.vanishes).map fun entry => (entry.1, entry.2.pruned) := by
  induction members with
  | nil => rfl
  | cons entry rest ih =>
    rw [prunedMembers, ih, List.filter_cons]
    cases entry.2.vanishes <;> rfl

theorem itemsVanish_iff : itemsVanish items ↔ ∀ item ∈ items, item.vanishes := by
  induction items with
  | nil => simp [itemsVanish]
  | cons item rest ih => rw [itemsVanish, Bool.and_eq_true, ih, List.forall_mem_cons]

theorem membersVanish_iff : membersVanish members ↔ ∀ entry ∈ members, entry.2.vanishes := by
  induction members with
  | nil => simp [membersVanish]
  | cons entry rest ih => rw [membersVanish, Bool.and_eq_true, ih, List.forall_mem_cons]

/-- A leaf of some items is a leaf of one of them. -/
theorem mem_itemSpots : spot ∈ itemSpots position items ↔
    ∃ (offset : Nat) (item : Json), items[offset]? = some item ∧
      ∃ inner ∈ item.spots, Spot.below (.index (position + offset)) inner = spot := by
  induction items generalizing position with
  | nil => simp [itemSpots]
  | cons item rest ih =>
    rw [itemSpots, List.mem_append, List.mem_map, ih]
    constructor
    · rintro (⟨inner, held, rfl⟩ | ⟨offset, later, found, inner, held, rfl⟩)
      · exact ⟨0, item, rfl, inner, held, rfl⟩
      · refine ⟨offset + 1, later, found, inner, held, ?_⟩
        rw [Nat.add_right_comm, Nat.add_assoc]
    · rintro ⟨offset, later, found, inner, held, rfl⟩
      cases offset with
      | zero =>
        cases found
        exact .inl ⟨inner, held, rfl⟩
      | succ offset =>
        refine .inr ⟨offset, later, found, inner, held, ?_⟩
        rw [Nat.add_right_comm, Nat.add_assoc]

theorem mem_memberSpots : spot ∈ memberSpots members ↔
    ∃ entry ∈ members, ∃ inner ∈ entry.2.spots, Spot.below (.key entry.1) inner = spot := by
  induction members with
  | nil => simp [memberSpots]
  | cons entry rest ih =>
    rw [memberSpots, List.mem_append, List.mem_map, ih, List.exists_mem_cons_iff]

theorem spots_array (filled : items ≠ []) : (array items).spots = itemSpots 0 items := by
  obtain ⟨item, rest, rfl⟩ := List.exists_cons_of_ne_nil filled
  rw [spots]

theorem spots_object (filled : members ≠ []) : (object members).spots = memberSpots members := by
  obtain ⟨member, rest, rfl⟩ := List.exists_cons_of_ne_nil filled
  rw [spots]

theorem memberSpots_subset_spots (members : List (String × Json)) :
    memberSpots members ⊆ (object members).spots := by
  cases members with
  | nil => exact List.nil_subset _
  | cons member rest => rw [spots_object (List.cons_ne_nil _ _)]; exact List.Subset.refl _

theorem mem_spots_array (filled : items ≠ []) : spot ∈ (array items).spots ↔
    ∃ (position : Nat) (item : Json), items[position]? = some item ∧
      ∃ inner ∈ item.spots, Spot.below (.index position) inner = spot := by
  rw [spots_array filled, mem_itemSpots]
  simp only [Nat.zero_add]

theorem mem_spots_object (filled : members ≠ []) : spot ∈ (object members).spots ↔
    ∃ entry ∈ members, ∃ inner ∈ entry.2.spots, Spot.below (.key entry.1) inner = spot := by
  rw [spots_object filled, mem_memberSpots]

end Lists

section Legible

variable {listed : List Json} {members : List (String × Json)} {entry : String × Json}
  {inner value : Json}

theorem Addressable.keys (addressable : (object members).Addressable) :
    (members.map Prod.fst).Nodup ∧ ∀ key ∈ members.map Prod.fst, PlainKey key :=
  addressable (object members) List.mem_cons_self

theorem Addressable.length_le (addressable : (array listed).Addressable) :
    listed.length ≤ UInt64.size :=
  addressable (array listed) List.mem_cons_self

theorem mem_parts_array (held : inner ∈ listed) : inner.parts ⊆ (array listed).parts := by
  intro part inside
  refine List.mem_cons_of_mem _ ?_
  rw [itemParts_eq]
  exact List.mem_flatMap.mpr ⟨_, held, inside⟩

theorem mem_parts_object (held : entry ∈ members) : entry.2.parts ⊆ (object members).parts := by
  intro part inside
  refine List.mem_cons_of_mem _ ?_
  rw [memberParts_eq]
  exact List.mem_flatMap.mpr ⟨entry, held, inside⟩

theorem Addressable.item (addressable : (array listed).Addressable) (held : inner ∈ listed) :
    inner.Addressable :=
  fun part inside => addressable part (mem_parts_array held inside)

theorem Addressable.member (addressable : (object members).Addressable) (held : entry ∈ members) :
    entry.2.Addressable :=
  fun part inside => addressable part (mem_parts_object held inside)

theorem Addressable.distinct (addressable : value.Addressable) : value.Distinct := by
  induction value using induct with
  | null => trivial
  | leaf leaf ends =>
    cases leaf with
    | array items =>
      cases items with
      | nil => trivial
      | cons item rest => cases ends
    | object members =>
      cases members with
      | nil => exact ⟨.nil, trivial⟩
      | cons entry rest => cases ends
    | _ => trivial
  | array items _ ih =>
    exact distinct_array.mpr fun item named => ih item named (addressable.item named)
  | object members _ ih =>
    exact distinct_object.mpr ⟨addressable.keys.1, fun entry named =>
      ih entry named (addressable.member named)⟩

theorem Legible.addressable (legible : value.Legible) : value.Addressable := by
  intro part inside
  have spelled := legible part inside
  cases part with
  | object members => exact spelled
  | array items => exact spelled.1
  | _ => trivial

theorem Legible.keys (legible : (object members).Legible) :
    (members.map Prod.fst).Nodup ∧ ∀ key ∈ members.map Prod.fst, PlainKey key :=
  legible.addressable.keys

theorem Legible.items (legible : (array listed).Legible) :
    listed.length ≤ UInt64.size ∧ ∀ item ∈ listed, item.vanishes = false :=
  legible (array listed) List.mem_cons_self

theorem Legible.item (legible : (array listed).Legible) (held : inner ∈ listed) : inner.Legible :=
  fun part inside => legible part (mem_parts_array held inside)

theorem Legible.member (legible : (object members).Legible) (held : entry ∈ members) :
    entry.2.Legible :=
  fun part inside => legible part (mem_parts_object held inside)

end Legible

/-! ## Part 3 — leaves -/

section Leaves

variable {leaf value : Json} {items : List Json} {members : List (String × Json)}
  {steps : List Step} {spot : Spot} {position start : Nat}

theorem spots_leaf (ends : leaf.isLeaf) : leaf.spots = [([], leaf)] :=
  match leaf, ends with
  | .boolean _, _ | .number _, _ | .text _, _ | .array [], _ | .object [], _ => rfl

theorem vanishes_leaf (ends : leaf.isLeaf) : leaf.vanishes = false :=
  match leaf, ends with
  | .boolean _, _ | .number _, _ | .text _, _ | .array [], _ | .object [], _ => rfl

theorem pruned_leaf (ends : leaf.isLeaf) : leaf.pruned = leaf :=
  match leaf, ends with
  | .boolean _, _ | .number _, _ | .text _, _ | .array [], _ | .object [], _ => rfl

/-- **What is listed as a leaf is one.** -/
theorem isLeaf_of_mem_spots (listed : spot ∈ value.spots) : spot.2.isLeaf := by
  induction value using induct generalizing spot with
  | null => exact (List.not_mem_nil listed).elim
  | leaf leaf ends =>
    rw [spots_leaf ends, List.mem_singleton] at listed
    exact listed ▸ ends
  | array items filled ih =>
    obtain ⟨position, item, found, inner, held, rfl⟩ := (mem_spots_array filled).mp listed
    show inner.2.isLeaf
    exact ih item (List.mem_of_getElem? found) held
  | object members filled ih =>
    obtain ⟨entry, named, inner, held, rfl⟩ := (mem_spots_object filled).mp listed
    show inner.2.isLeaf
    exact ih entry named held

/-- **A value vanishes exactly if it has no leaf.** -/
theorem vanishes_iff : value.vanishes ↔ value.spots = [] := by
  induction value using induct with
  | null => exact iff_of_true rfl rfl
  | leaf leaf ends =>
    rw [vanishes_leaf ends, spots_leaf ends]
    exact iff_of_false Bool.false_ne_true (List.cons_ne_nil _ _)
  | array items filled ih =>
    have all : (array items).vanishes = itemsVanish items := by
      obtain ⟨item, rest, rfl⟩ := List.exists_cons_of_ne_nil filled
      rw [vanishes]
    rw [all, itemsVanish_iff, List.eq_nil_iff_forall_not_mem]
    constructor
    · intro none spot listed
      obtain ⟨position, item, found, inner, held, rfl⟩ := (mem_spots_array filled).mp listed
      have named := List.mem_of_getElem? found
      exact List.ne_nil_of_mem held ((ih item named).mp (none item named))
    · intro none item named
      refine (ih item named).mpr (List.eq_nil_iff_forall_not_mem.mpr fun inner held => ?_)
      obtain ⟨position, found⟩ := List.mem_iff_getElem?.mp named
      exact none _ ((mem_spots_array filled).mpr ⟨position, item, found, inner, held, rfl⟩)
  | object members filled ih =>
    have all : (object members).vanishes = membersVanish members := by
      obtain ⟨entry, rest, rfl⟩ := List.exists_cons_of_ne_nil filled
      rw [vanishes]
    rw [all, membersVanish_iff, List.eq_nil_iff_forall_not_mem]
    constructor
    · intro none spot listed
      obtain ⟨entry, named, inner, held, rfl⟩ := (mem_spots_object filled).mp listed
      exact List.ne_nil_of_mem held ((ih entry named).mp (none entry named))
    · intro none entry named
      refine (ih entry named).mpr (List.eq_nil_iff_forall_not_mem.mpr fun inner held => ?_)
      exact none _ ((mem_spots_object filled).mpr ⟨entry, named, inner, held, rfl⟩)

theorem exists_spot (stays : value.vanishes = false) : ∃ spot, spot ∈ value.spots :=
  List.exists_mem_of_ne_nil _ fun none => Bool.eq_false_iff.mp stays (vanishes_iff.mpr none)

/-- The leaves of what is at the end of some steps are leaves of the whole. -/
theorem mem_spots_of_follow {inner : Json} (found : follow steps value = some inner)
    (listed : spot ∈ inner.spots) : (steps ++ spot.1, spot.2) ∈ value.spots := by
  induction steps generalizing value with
  | nil =>
    cases found
    exact listed
  | cons step steps ih =>
    obtain ⟨child, there, further⟩ := Option.bind_eq_some_iff.mp found
    have held := ih further
    cases step with
    | key name =>
      cases value with
      | object members =>
        have named : (name, child) ∈ members := Entries.mem_of_lookup there
        exact (mem_spots_object (List.ne_nil_of_mem named)).mpr ⟨_, named, _, held, rfl⟩
      | _ => cases there
    | index position =>
      cases value with
      | array items =>
        have named : child ∈ items := List.mem_of_getElem? there
        exact (mem_spots_array (List.ne_nil_of_mem named)).mpr
          ⟨position, child, there, _, held, rfl⟩
      | _ => cases there

/-- What the steps to a leaf lead to is the leaf. -/
theorem follow_of_mem_spots (distinct : value.Distinct) (listed : spot ∈ value.spots) :
    follow spot.1 value = some spot.2 := by
  induction value using induct generalizing spot with
  | null => exact (List.not_mem_nil listed).elim
  | leaf leaf ends =>
    rw [spots_leaf ends, List.mem_singleton] at listed
    rw [listed]
    rfl
  | array items filled ih =>
    obtain ⟨position, item, found, inner, held, rfl⟩ := (mem_spots_array filled).mp listed
    have named := List.mem_of_getElem? found
    exact Option.bind_eq_some_iff.mpr ⟨item, found, ih item named (distinct.item named) held⟩
  | object members filled ih =>
    obtain ⟨entry, named, inner, held, rfl⟩ := (mem_spots_object filled).mp listed
    have found : members.lookup entry.1 = some entry.2 :=
      (Entries.lookup_eq_some_iff distinct.keys).mpr named
    exact Option.bind_eq_some_iff.mpr ⟨entry.2, found, ih entry named (distinct.member named) held⟩

/-- **The leaves of a value are what steps lead to**, so far as that is a leaf. -/
theorem mem_spots_iff (distinct : value.Distinct) :
    spot ∈ value.spots ↔ follow spot.1 value = some spot.2 ∧ spot.2.isLeaf := by
  constructor
  · exact fun listed => ⟨follow_of_mem_spots distinct listed, isLeaf_of_mem_spots listed⟩
  · rintro ⟨found, ends⟩
    have here : ([], spot.2) ∈ spot.2.spots := by
      rw [spots_leaf ends]
      exact List.mem_singleton_self _
    have listed := mem_spots_of_follow found here
    rwa [List.append_nil] at listed

/-! ## Part 4 — how many leaves there are -/

theorem length_le_itemSpots (stay : ∀ item ∈ items, item.vanishes = false) :
    items.length ≤ (itemSpots start items).length := by
  induction items generalizing start with
  | nil => exact Nat.zero_le _
  | cons item rest ih =>
    rw [List.forall_mem_cons] at stay
    obtain ⟨spot, listed⟩ := exists_spot stay.1
    have one : 0 < item.spots.length := List.length_pos_of_mem listed
    have others : rest.length ≤ (itemSpots (start + 1) rest).length := ih stay.2
    rw [itemSpots, List.length_append, List.length_map, List.length_cons]
    omega

theorem length_spots_le_itemSpots {item : Json} (named : item ∈ items) :
    item.spots.length ≤ (itemSpots start items).length := by
  induction items generalizing start with
  | nil => exact (List.not_mem_nil named).elim
  | cons first rest ih =>
    rw [itemSpots, List.length_append, List.length_map]
    rcases List.mem_cons.mp named with rfl | later
    · exact Nat.le_add_right _ _
    · exact Nat.le_trans (ih later) (Nat.le_add_left _ _)

theorem length_spots_le_memberSpots {entry : String × Json} (named : entry ∈ members) :
    entry.2.spots.length ≤ (memberSpots members).length := by
  induction members with
  | nil => exact (List.not_mem_nil named).elim
  | cons first rest ih =>
    rw [memberSpots, List.length_append, List.length_map]
    rcases List.mem_cons.mp named with rfl | later
    · exact Nat.le_add_right _ _
    · exact Nat.le_trans (ih later) (Nat.le_add_left _ _)

/-- **No index on the way to a leaf reaches the number of leaves**, since each item before it has a
leaf of its own. -/
theorem Legible.lt_length_spots (legible : value.Legible) (listed : spot ∈ value.spots)
    (taken : .index position ∈ spot.1) : position < value.spots.length := by
  induction value using induct generalizing spot with
  | null => exact (List.not_mem_nil listed).elim
  | leaf leaf ends =>
    rw [spots_leaf ends, List.mem_singleton] at listed
    rw [listed] at taken
    exact (List.not_mem_nil taken).elim
  | array items filled ih =>
    obtain ⟨index, item, found, inner, held, rfl⟩ := (mem_spots_array filled).mp listed
    rw [spots_array filled]
    rcases List.mem_cons.mp taken with here | further
    · cases here
      obtain ⟨inside, _⟩ := List.getElem?_eq_some_iff.mp found
      exact Nat.lt_of_lt_of_le inside (length_le_itemSpots legible.items.2)
    · have named := List.mem_of_getElem? found
      exact Nat.lt_of_lt_of_le (ih item named (legible.item named) held further)
        (length_spots_le_itemSpots named)
  | object members filled ih =>
    obtain ⟨entry, named, inner, held, rfl⟩ := (mem_spots_object filled).mp listed
    rw [spots_object filled]
    rcases List.mem_cons.mp taken with here | further
    · cases here
    · exact Nat.lt_of_lt_of_le (ih entry named (legible.member named) held further)
        (length_spots_le_memberSpots named)

end Leaves

/-! ## Part 5 — steps that part -/

/-- Both steps lead to items, or both to members. -/
def Step.SameKind : Step → Step → Prop
  | .index _, .index _ => True
  | .key _, .key _ => True
  | _, _ => False

/-- Two ways part, at two items of an array or at two members of an object. -/
inductive Parting : List Step → List Step → Prop where
  | items {first second : Nat} (different : first ≠ second) (rest others : List Step) :
      Parting (.index first :: rest) (.index second :: others)
  | members {first second : String} (different : first ≠ second) (rest others : List Step) :
      Parting (.key first :: rest) (.key second :: others)
  | further (step : Step) {rest others : List Step} (parting : Parting rest others) :
      Parting (step :: rest) (step :: others)

section Partings

variable {value : Json} {items : List Json} {members : List (String × Json)} {start : Nat}

theorem Parting.of_heads {step other : Step} (different : step ≠ other)
    (kind : step.SameKind other) (rest others : List Step) :
    Parting (step :: rest) (other :: others) := by
  cases step <;> cases other
  case key.key first second => exact .members (fun same => different (congrArg _ same)) rest others
  case index.index first second =>
    exact .items (fun same => different (congrArg _ same)) rest others
  all_goals exact kind.elim

theorem Parting.symm {steps others : List Step} (parting : Parting steps others) :
    Parting others steps := by
  induction parting with
  | items different rest others => exact .items different.symm others rest
  | members different rest others => exact .members different.symm others rest
  | further step _ ih => exact .further step ih

theorem Parting.ne {steps others : List Step} (parting : Parting steps others) :
    steps ≠ others := by
  induction parting with
  | items different => exact fun same => different (Step.index.inj (List.cons.inj same).1)
  | members different => exact fun same => different (Step.key.inj (List.cons.inj same).1)
  | further step _ ih => exact fun same => ih (List.cons.inj same).2

/-- The ways to two spots part. -/
def Spot.Parts (first second : Spot) : Prop :=
  Parting first.1 second.1

theorem pairwise_below {spots : List Spot} (step : Step) (pairwise : spots.Pairwise Spot.Parts) :
    (spots.map (Spot.below step)).Pairwise Spot.Parts :=
  List.pairwise_map.mpr (pairwise.imp fun parting => .further step parting)

theorem pairwise_itemSpots (each : ∀ item ∈ items, item.spots.Pairwise Spot.Parts) :
    (itemSpots start items).Pairwise Spot.Parts := by
  induction items generalizing start with
  | nil => exact .nil
  | cons item rest ih =>
    rw [List.forall_mem_cons] at each
    rw [itemSpots, List.pairwise_append]
    refine ⟨pairwise_below _ each.1, ih each.2, fun first early second late => ?_⟩
    obtain ⟨inner, _, rfl⟩ := List.mem_map.mp early
    obtain ⟨offset, later, _, other, _, rfl⟩ := mem_itemSpots.mp late
    exact .items (by omega) _ _

theorem pairwise_memberSpots (nodup : (members.map Prod.fst).Nodup)
    (each : ∀ entry ∈ members, entry.2.spots.Pairwise Spot.Parts) :
    (memberSpots members).Pairwise Spot.Parts := by
  induction members with
  | nil => exact .nil
  | cons entry rest ih =>
    rw [List.forall_mem_cons] at each
    rw [List.map_cons, List.nodup_cons] at nodup
    rw [memberSpots, List.pairwise_append]
    refine ⟨pairwise_below _ each.1, ih nodup.2 each.2, fun first early second late => ?_⟩
    obtain ⟨inner, _, rfl⟩ := List.mem_map.mp early
    obtain ⟨later, named, other, _, rfl⟩ := mem_memberSpots.mp late
    refine .members (fun same => nodup.1 ?_) _ _
    exact List.mem_map.mpr ⟨later, named, same.symm⟩

/-- **The ways to the leaves of a value part**, any two of them, if no object repeats a key. -/
theorem Distinct.pairwise_spots (distinct : value.Distinct) :
    value.spots.Pairwise Spot.Parts := by
  induction value using Json.induct with
  | null => exact .nil
  | leaf leaf ends =>
    rw [spots_leaf ends]
    exact List.pairwise_singleton ..
  | array items filled ih =>
    rw [spots_array filled]
    exact pairwise_itemSpots fun item named => ih item named (distinct.item named)
  | object members filled ih =>
    rw [spots_object filled]
    exact pairwise_memberSpots distinct.keys fun entry named =>
      ih entry named (distinct.member named)

theorem Addressable.pairwise_spots (addressable : value.Addressable) :
    value.spots.Pairwise Spot.Parts :=
  addressable.distinct.pairwise_spots

end Partings

end SecondaryIndex.Json
