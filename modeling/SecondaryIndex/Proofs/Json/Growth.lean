/-
**A value grows from its leaves, put in place in any order.**

* `exists_child_place` — what putting a leaf in place does to one step: it fills the slot that the
  step leads to, and the other slots stay or are null;
* `follow_place` and `follow_place_of_parting` — what is put in place is found there, and stays
  there when more is put in place elsewhere;
* `exists_place` — a leaf is put in place unless an index on its way is too high;
* `Grown` — a value in which some leaves of another are in place, with nulls where items of an array
  are still to come; `Budding.place` is one more leaf, `Budding.placeAll` are many;
* `Grown.alike_pruned` — with all leaves in place, it is the whole value, without what vanishes;
* `exists_regrown` — so the leaves of an object make it up again.
-/

import SecondaryIndex.Proofs.Json.Spots

namespace SecondaryIndex.Json

/-! ## Part 1 — putting in place -/

section Placing

variable {bound : Nat} {leaf target placed held : Json} {step : Step}
  {rest steps others : List Step} {items : List Json} {position index : Nat} {name : String}

theorem length_padded : (padded items position).length = max items.length (position + 1) := by
  rw [padded, List.length_append, List.length_replicate]
  omega

theorem lt_length_padded : position < (padded items position).length := by
  rw [length_padded]
  omega

theorem getElem?_padded_of_some (found : items[index]? = some held) :
    (padded items position)[index]? = some held := by
  obtain ⟨inside, _⟩ := List.getElem?_eq_some_iff.mp found
  rw [padded, List.getElem?_append_left inside, found]

/-- What is new in a list made longer is null. -/
theorem getElem?_padded (found : (padded items position)[index]? = some held) :
    items[index]? = some held ∨ held = .null := by
  by_cases inside : index < items.length
  · rw [padded, List.getElem?_append_left inside] at found
    exact .inl found
  · rw [padded, List.getElem?_append_right (Nat.le_of_not_lt inside)] at found
    exact .inr (List.eq_of_mem_replicate (List.mem_of_getElem? found))

theorem getD_padded :
    (padded items position)[position]?.getD .null = items[position]?.getD .null := by
  cases found : items[position]? with
  | some held => rw [getElem?_padded_of_some found]
  | none =>
    rw [List.getElem?_eq_getElem lt_length_padded]
    have either := getElem?_padded (List.getElem?_eq_getElem (@lt_length_padded items position))
    exact either.resolve_left fun there => nomatch found.symm.trans there

theorem place_key : place bound leaf (.key name :: rest) target = some placed ↔
    ∃ slot, place bound leaf rest (((membersOf target).lookup name).getD .null) = some slot ∧
      object (InsertionMap.insertEntry name slot (membersOf target)) = placed := by
  rw [place, Option.map_eq_some_iff]

theorem place_index : place bound leaf (.index position :: rest) target = some placed ↔
    position < bound ∧
      ∃ slot, place bound leaf rest ((itemsOf target)[position]?.getD .null) = some slot ∧
        array ((padded (itemsOf target) position).set position slot) = placed := by
  rw [place]
  by_cases high : bound ≤ position
  · rw [if_pos high]
    exact iff_of_false (by simp) fun taken => Nat.not_lt.mpr high taken.1
  · rw [if_neg high, Option.map_eq_some_iff, getD_padded]
    exact (and_iff_right (Nat.lt_of_not_le high)).symm

/-- **A leaf can be put in place** if no index on its way reaches the bound. -/
theorem exists_place (target : Json)
    (low : ∀ position, .index position ∈ steps → position < bound) :
    ∃ placed, place bound leaf steps target = some placed := by
  induction steps generalizing target with
  | nil => exact ⟨leaf, rfl⟩
  | cons step steps ih =>
    have later := fun position taken => low position (List.mem_cons_of_mem _ taken)
    cases step with
    | key name =>
      obtain ⟨slot, filled⟩ := ih (((membersOf target).lookup name).getD .null) later
      exact ⟨_, place_key.mpr ⟨slot, filled, rfl⟩⟩
    | index position =>
      obtain ⟨slot, filled⟩ := ih ((itemsOf target)[position]?.getD .null) later
      exact ⟨_, place_index.mpr ⟨low position List.mem_cons_self, slot, filled, rfl⟩⟩

theorem child?_key (name : String) (target : Json) :
    child? (.key name) target = (membersOf target).lookup name := by
  cases target <;> rfl

theorem child?_index (position : Nat) (target : Json) :
    child? (.index position) target = (itemsOf target)[position]? := by
  cases target <;> rfl

/-- **What a leaf changes** is where its first step leads to. Other steps of that kind lead to what
they led to, and no other step leads to anything new but null. -/
theorem exists_child_place (done : place bound leaf (step :: rest) target = some placed) :
    ∃ slot, place bound leaf rest ((child? step target).getD .null) = some slot ∧
      child? step placed = some slot ∧
      ∀ other child, step ≠ other →
        (step.SameKind other → child? other target = some child →
          child? other placed = some child) ∧
        (child? other placed = some child → child? other target = some child ∨ child = .null) := by
  cases step with
  | key name =>
    obtain ⟨slot, filled, rfl⟩ := place_key.mp done
    rw [child?_key, child?_key, membersOf, InsertionMap.lookup_insertEntry, if_pos rfl]
    refine ⟨slot, filled, rfl, fun other child apart => ?_⟩
    cases other with
    | key further =>
      have different : further ≠ name := fun same => apart (congrArg _ same.symm)
      rw [child?_key, child?_key, membersOf, InsertionMap.lookup_insertEntry, if_neg different]
      exact ⟨fun _ there => there, fun there => .inl there⟩
    | index position => exact ⟨fun kind => kind.elim, fun there => nomatch there⟩
  | index position =>
    obtain ⟨_, slot, filled, rfl⟩ := place_index.mp done
    rw [child?_index, child?_index, itemsOf, List.getElem?_set_self lt_length_padded]
    refine ⟨slot, filled, rfl, fun other child apart => ?_⟩
    cases other with
    | key name => exact ⟨fun kind => kind.elim, fun there => nomatch there⟩
    | index further =>
      have different : position ≠ further := fun same => apart (congrArg _ same)
      rw [child?_index, child?_index, itemsOf, List.getElem?_set_ne different]
      exact ⟨fun _ there => getElem?_padded_of_some there, fun there => getElem?_padded there⟩

theorem follow_append (value : Json) :
    follow (steps ++ others) value = (follow steps value).bind (follow others) := by
  induction steps generalizing value with
  | nil => rfl
  | cons step steps ih =>
    rw [List.cons_append, follow, follow, Option.bind_assoc]
    exact congrArg _ (funext ih)

/-- **What is put in place is found there.** -/
theorem follow_place (done : place bound leaf steps target = some placed) :
    follow steps placed = some leaf := by
  induction steps generalizing target placed with
  | nil =>
    cases done
    rfl
  | cons step steps ih =>
    obtain ⟨slot, filled, here, _⟩ := exists_child_place done
    rw [follow, here, Option.bind_some]
    exact ih filled

/-- **What is elsewhere stays there.** -/
theorem follow_place_of_parting (parting : Parting steps others)
    (done : place bound leaf steps target = some placed)
    (found : follow others target = some held) :
    follow others placed = some held := by
  induction parting generalizing target placed with
  | items different rest others =>
    obtain ⟨_, _, _, elsewhere⟩ := exists_child_place done
    obtain ⟨child, there, onward⟩ := Option.bind_eq_some_iff.mp found
    have stays := (elsewhere _ child fun same => different (Step.index.inj same)).1 trivial there
    exact Option.bind_eq_some_iff.mpr ⟨child, stays, onward⟩
  | members different rest others =>
    obtain ⟨_, _, _, elsewhere⟩ := exists_child_place done
    obtain ⟨child, there, onward⟩ := Option.bind_eq_some_iff.mp found
    have stays := (elsewhere _ child fun same => different (Step.key.inj same)).1 trivial there
    exact Option.bind_eq_some_iff.mpr ⟨child, stays, onward⟩
  | further step parting ih =>
    obtain ⟨slot, filled, here, _⟩ := exists_child_place done
    obtain ⟨child, there, onward⟩ := Option.bind_eq_some_iff.mp found
    rw [there, Option.getD_some] at filled
    exact Option.bind_eq_some_iff.mpr ⟨slot, here, ih filled onward⟩

end Placing

/-! ## Part 2 — values that grow -/

/-- Some leaves of a value are in place, and nothing else is. What is missing between items of an
array is null there. -/
inductive Grown : Json → Json → Prop where
  | leaf {leaf : Json} (ends : leaf.isLeaf) : Grown leaf leaf
  | array {items slots : List Json} (short : slots.length ≤ items.length)
      (each : ∀ (position : Nat) item slot, items[position]? = some item →
        slots[position]? = some slot → slot ≠ .null → Grown item slot) :
      Grown (.array items) (.array slots)
  | object {members slots : List (String × Json)} (filled : slots ≠ [])
      (nodup : (slots.map Prod.fst).Nodup)
      (known : ∀ key ∈ slots.map Prod.fst, key ∈ members.map Prod.fst)
      (each : ∀ key value slot, (key, value) ∈ members → slots.lookup key = some slot →
        Grown value slot) :
      Grown (.object members) (.object slots)

/-- Nothing is in place yet, or some leaves are. -/
def Budding (value target : Json) : Prop :=
  (itemsOf target = [] ∧ membersOf target = []) ∨ Grown value target

section Growing

variable {bound : Nat} {value target placed : Json} {spot : Spot}

theorem Budding.null : Budding value .null :=
  .inl ⟨rfl, rfl⟩

/-- The items of what grows into an array. -/
theorem Budding.items {items : List Json} (budding : Budding (.array items) target) :
    (itemsOf target).length ≤ items.length ∧
      ∀ (position : Nat) item slot, items[position]? = some item →
        (itemsOf target)[position]? = some slot → slot ≠ .null → Grown item slot := by
  rcases budding with ⟨none, _⟩ | grown
  · rw [none]
    exact ⟨Nat.zero_le _, fun _ _ _ _ there => nomatch there⟩
  · cases grown with
    | leaf ends =>
      cases items with
      | nil => exact ⟨Nat.zero_le _, fun _ _ _ _ there => nomatch there⟩
      | cons item items => cases ends
    | array short each => exact ⟨short, each⟩

/-- The members of what grows into an object. -/
theorem Budding.members {members : List (String × Json)}
    (budding : Budding (.object members) target) :
    ((membersOf target).map Prod.fst).Nodup ∧
      (∀ key ∈ (membersOf target).map Prod.fst, key ∈ members.map Prod.fst) ∧
      ∀ key value slot, (key, value) ∈ members → (membersOf target).lookup key = some slot →
        Grown value slot := by
  rcases budding with ⟨_, none⟩ | grown
  · rw [none]
    exact ⟨.nil, fun _ there => (List.not_mem_nil there).elim, fun _ _ _ _ there => nomatch there⟩
  · cases grown with
    | leaf ends =>
      cases members with
      | nil =>
        exact ⟨.nil, fun _ there => (List.not_mem_nil there).elim,
          fun _ _ _ _ there => nomatch there⟩
      | cons member members => cases ends
    | object _ nodup known each => exact ⟨nodup, known, each⟩

/-- What stands at a position is nothing, a null that fills up, or something grown. -/
theorem Budding.item {items : List Json} {item : Json} {position : Nat}
    (budding : Budding (.array items) target) (found : items[position]? = some item) :
    Budding item ((itemsOf target)[position]?.getD .null) := by
  cases there : (itemsOf target)[position]? with
  | none => exact .null
  | some old =>
    by_cases blank : old = .null
    · rw [blank]
      exact .null
    · exact .inr (budding.items.2 position item old found there blank)

theorem Budding.member {members : List (String × Json)} {entry : String × Json}
    (budding : Budding (.object members) target) (named : entry ∈ members) :
    Budding entry.2 (((membersOf target).lookup entry.1).getD .null) := by
  cases there : (membersOf target).lookup entry.1 with
  | none => exact .null
  | some old => exact .inr (budding.members.2.2 entry.1 entry.2 old named there)

/-- An array grows at one position; elsewhere its items are the old ones, or new nulls. -/
theorem Budding.set {items : List Json} {item slot : Json} {position : Nat}
    (budding : Budding (.array items) target) (found : items[position]? = some item)
    (grown : Grown item slot) :
    Grown (.array items) (.array ((padded (itemsOf target) position).set position slot)) := by
  obtain ⟨short, each⟩ := budding.items
  refine .array ?_ fun index other kept listed there some => ?_
  · obtain ⟨inside, _⟩ := List.getElem?_eq_some_iff.mp found
    rw [List.length_set, length_padded]
    omega
  · by_cases same : position = index
    · subst same
      rw [List.getElem?_set_self lt_length_padded] at there
      cases there
      cases found.symm.trans listed
      exact grown
    · rw [List.getElem?_set_ne same] at there
      exact each index other kept listed ((getElem?_padded there).resolve_right some) some

/-- An object grows at one key. -/
theorem Budding.insert {members : List (String × Json)} {entry : String × Json} {slot : Json}
    (budding : Budding (.object members) target) (single : (members.map Prod.fst).Nodup)
    (named : entry ∈ members) (grown : Grown entry.2 slot) :
    Grown (.object members)
      (.object (InsertionMap.insertEntry entry.1 slot (membersOf target))) := by
  obtain ⟨nodup, known, each⟩ := budding.members
  have keys := InsertionMap.mem_keys_insertEntry entry.1 slot (membersOf target)
  refine .object ?_ (InsertionMap.nodup_insertEntry entry.1 slot nodup) (fun other there => ?_)
    fun other value kept listed there => ?_
  · exact fun none => List.not_mem_nil (none ▸ (keys entry.1).mpr (.inl rfl))
  · rcases (keys other).mp there with rfl | there
    · exact List.mem_map_of_mem named
    · exact known other there
  · rw [InsertionMap.lookup_insertEntry] at there
    split at there
    · rename_i same
      cases there
      have inside := (Entries.lookup_eq_some_iff single).mpr named
      have also := (Entries.lookup_eq_some_iff single).mpr listed
      cases inside.symm.trans (same ▸ also)
      exact grown
    · exact each other value kept listed there

/-- **One more leaf.** -/
theorem Budding.place (budding : Budding value target) (legible : value.Legible)
    (listed : spot ∈ value.spots)
    (done : Json.place bound spot.2 spot.1 target = some placed) : Grown value placed := by
  induction value using induct generalizing spot target placed with
  | null => exact (List.not_mem_nil listed).elim
  | leaf leaf ends =>
    rw [spots_leaf ends, List.mem_singleton] at listed
    rw [listed] at done
    cases done
    exact .leaf ends
  | array items filled ih =>
    obtain ⟨position, item, found, inner, held, rfl⟩ := (mem_spots_array filled).mp listed
    obtain ⟨_, slot, grows, rfl⟩ := place_index.mp done
    have named := List.mem_of_getElem? found
    exact budding.set found (ih item named (budding.item found) (legible.item named) held grows)
  | object members filled ih =>
    obtain ⟨entry, named, inner, held, rfl⟩ := (mem_spots_object filled).mp listed
    obtain ⟨slot, grows, rfl⟩ := place_key.mp done
    exact budding.insert legible.keys.1 named
      (ih entry named (budding.member named) (legible.member named) held grows)

end Growing

/-! ## Part 3 — all leaves -/

section Whole

variable {bound : Nat} {value target : Json} {members : List (String × Json)} {todo : List Spot}
  {steps : List Step}

theorem vanishes_eq_false_of_mem {spot : Spot} (listed : spot ∈ value.spots) :
    value.vanishes = false :=
  Bool.eq_false_iff.mpr fun vanishes => List.ne_nil_of_mem listed (vanishes_iff.mp vanishes)

/-- Nothing grows from a value that vanishes. -/
theorem Grown.vanishes (grown : Grown value target) (legible : value.Legible) :
    value.vanishes = false := by
  induction value using induct generalizing target with
  | null => cases grown with | leaf ends => cases ends
  | leaf leaf ends => exact vanishes_leaf ends
  | array items filled _ =>
    obtain ⟨item, rest, rfl⟩ := List.exists_cons_of_ne_nil filled
    obtain ⟨spot, held⟩ := exists_spot (legible.items.2 item List.mem_cons_self)
    exact vanishes_eq_false_of_mem ((mem_spots_array filled).mpr ⟨0, item, rfl, spot, held, rfl⟩)
  | object members filled ih =>
    cases grown with
    | leaf ends => exact vanishes_leaf ends
    | object some nodup known each =>
      obtain ⟨⟨key, slot⟩, there⟩ := List.exists_mem_of_ne_nil _ some
      obtain ⟨⟨_, member⟩, named, rfl⟩ :=
        List.mem_map.mp (known key (List.mem_map.mpr ⟨_, there, rfl⟩))
      have grows := each _ member slot named ((Entries.lookup_eq_some_iff nodup).mpr there)
      obtain ⟨spot, held⟩ := exists_spot (ih _ named grows (legible.member named))
      exact vanishes_eq_false_of_mem ((mem_spots_object filled).mpr ⟨_, named, spot, held, rfl⟩)

theorem follow_null {held : Json} (found : follow steps .null = some held) : held = .null := by
  cases steps with
  | nil => exact (Option.some.inj found).symm
  | cons step steps => cases step <;> cases found

/-- Where the leaves of a value are found below something, there is something below. -/
theorem exists_slot {child : Option Json} (stays : value.vanishes = false)
    (all : ∀ spot ∈ value.spots, child.bind (follow spot.1) = some spot.2) :
    ∃ slot, child = some slot ∧ slot ≠ .null ∧
      ∀ spot ∈ value.spots, follow spot.1 slot = some spot.2 := by
  obtain ⟨first, held⟩ := exists_spot stays
  obtain ⟨slot, rfl, found⟩ := Option.bind_eq_some_iff.mp (all first held)
  refine ⟨slot, rfl, ?_, all⟩
  rintro rfl
  have ends := isLeaf_of_mem_spots held
  rw [follow_null found] at ends
  cases ends

theorem alike_array {items slots : List Json} (short : slots.length ≤ items.length)
    (each : ∀ (position : Nat) item, items[position]? = some item →
      ∃ slot, slots[position]? = some slot ∧ Alike slot item.pruned) :
    Alike (.array slots) (array items).pruned := by
  have length : slots.length = items.length := by
    refine Nat.le_antisymm short (Nat.le_of_not_lt fun shorter => ?_)
    obtain ⟨slot, there, _⟩ := each slots.length _ (List.getElem?_eq_getElem shorter)
    obtain ⟨inside, _⟩ := List.getElem?_eq_some_iff.mp there
    exact Nat.lt_irrefl _ inside
  rw [pruned, prunedItems_eq]
  refine .array (length.trans (List.length_map _).symm) fun position slot second there also => ?_
  rw [List.getElem?_map] at also
  obtain ⟨item, found, rfl⟩ := Option.map_eq_some_iff.mp also
  obtain ⟨same, again, alike⟩ := each position item found
  cases there.symm.trans again
  exact alike

theorem alike_object {slots : List (String × Json)} (nodup : (members.map Prod.fst).Nodup)
    (single : (slots.map Prod.fst).Nodup)
    (known : ∀ key ∈ slots.map Prod.fst, ∃ value, (key, value) ∈ members ∧ value.vanishes = false)
    (each : ∀ key value, (key, value) ∈ members → value.vanishes = false →
      ∃ slot, slots.lookup key = some slot ∧ Alike slot value.pruned) :
    Alike (.object slots) (object members).pruned := by
  have mem_pruned : ∀ key second, (key, second) ∈ prunedMembers members ↔
      ∃ value, (key, value) ∈ members ∧ value.vanishes = false ∧ value.pruned = second := by
    intro key second
    rw [prunedMembers_eq]
    simp [and_assoc]
  rw [pruned]
  refine .object ((List.perm_ext_iff_of_nodup single ?_).mpr fun key => ?_) ?_
  · rw [prunedMembers_eq, List.map_map]
    exact nodup.sublist (List.filter_sublist.map _)
  · constructor
    · intro there
      obtain ⟨value, named, stays⟩ := known key there
      exact List.mem_map.mpr ⟨_, (mem_pruned key _).mpr ⟨value, named, stays, rfl⟩, rfl⟩
    · intro there
      obtain ⟨⟨_, second⟩, listed, rfl⟩ := List.mem_map.mp there
      obtain ⟨value, named, stays, _⟩ := (mem_pruned _ second).mp listed
      obtain ⟨slot, found, _⟩ := each _ value named stays
      exact List.mem_map.mpr ⟨_, Entries.mem_of_lookup found, rfl⟩
  · intro key slot second there listed
    obtain ⟨value, named, stays, rfl⟩ := (mem_pruned key second).mp listed
    obtain ⟨same, found, alike⟩ := each key value named stays
    cases ((Entries.lookup_eq_some_iff single).mpr there).symm.trans found
    exact alike

/-- **With all leaves in place, a value is whole**, but for what vanishes. -/
theorem Grown.alike_pruned (grown : Grown value target) (legible : value.Legible)
    (all : ∀ spot ∈ value.spots, follow spot.1 target = some spot.2) :
    Alike target value.pruned := by
  induction value using induct generalizing target with
  | null => cases grown with | leaf ends => cases ends
  | leaf leaf ends =>
    have here := all ([], leaf) (by rw [spots_leaf ends]; exact List.mem_singleton_self _)
    cases here
    rw [pruned_leaf ends]
    exact .same _
  | array items filled ih =>
    cases grown with
    | leaf ends =>
      obtain ⟨item, rest, rfl⟩ := List.exists_cons_of_ne_nil filled
      cases ends
    | @array _ slots short each =>
      refine alike_array short fun position item found => ?_
      have named := List.mem_of_getElem? found
      have inside : ∀ spot ∈ item.spots, (slots[position]?).bind (follow spot.1) = some spot.2 :=
        fun spot held =>
          all _ ((mem_spots_array filled).mpr ⟨position, item, found, spot, held, rfl⟩)
      obtain ⟨slot, there, some, further⟩ := exists_slot (legible.items.2 item named) inside
      exact ⟨slot, there,
        ih item named (each position item slot found there some) (legible.item named) further⟩
  | object members filled ih =>
    cases grown with
    | leaf ends =>
      obtain ⟨member, rest, rfl⟩ := List.exists_cons_of_ne_nil filled
      cases ends
    | @object _ slots _ single known each =>
      refine alike_object legible.keys.1 single (fun key there => ?_)
        fun key value named stays => ?_
      · obtain ⟨⟨_, value⟩, named, rfl⟩ := List.mem_map.mp (known key there)
        obtain ⟨⟨_, slot⟩, listed, rfl⟩ := List.mem_map.mp there
        have grows := each _ value slot named ((Entries.lookup_eq_some_iff single).mpr listed)
        exact ⟨value, named, grows.vanishes (legible.member named)⟩
      · have inside : ∀ spot ∈ value.spots, (slots.lookup key).bind (follow spot.1) =
            some spot.2 := fun spot held =>
          all _ ((mem_spots_object filled).mpr ⟨_, named, spot, held, rfl⟩)
        obtain ⟨slot, there, _, further⟩ := exists_slot stays inside
        exact ⟨slot, there,
          ih _ named (each key value slot named there) (legible.member named) further⟩

/-! ## Part 4 — in any order -/

/-- Puts leaves in place, one after the other. -/
def placeAll (bound : Nat) (todo : List Spot) (target : Json) : Option Json :=
  todo.foldlM (fun target spot => place bound spot.2 spot.1 target) target

/-- **Many more leaves.** They are found in place, and what is elsewhere stays there. -/
theorem Budding.placeAll (budding : Budding value target) (legible : value.Legible)
    (listed : ∀ spot ∈ todo, spot ∈ value.spots) (parted : todo.Pairwise Spot.Parts)
    (low : value.spots.length ≤ bound) :
    ∃ built, Json.placeAll bound todo target = some built ∧
      (todo = [] ∧ built = target ∨ Grown value built) ∧
      (∀ spot ∈ todo, follow spot.1 built = some spot.2) ∧
      ∀ others held, (∀ spot ∈ todo, Parting spot.1 others) → follow others target = some held →
        follow others built = some held := by
  induction todo generalizing target with
  | nil =>
    exact ⟨target, rfl, .inl ⟨rfl, rfl⟩, fun _ there => (List.not_mem_nil there).elim,
      fun _ _ _ found => found⟩
  | cons spot todo ih =>
    rw [List.forall_mem_cons] at listed
    rw [List.pairwise_cons] at parted
    obtain ⟨placed, done⟩ := exists_place target fun position taken =>
      Nat.lt_of_lt_of_le (legible.lt_length_spots listed.1 taken) low
    have grown : Grown value placed := budding.place legible listed.1 done
    obtain ⟨built, rest, grows, found, kept⟩ := ih (.inr grown) listed.2 parted.2
    refine ⟨built, ?_, .inr ?_, ?_, fun others held parting there => ?_⟩
    · rw [Json.placeAll, List.foldlM_cons, done]
      exact rest
    · rcases grows with ⟨_, rfl⟩ | grows
      · exact grown
      · exact grows
    · -- the leaf stays where it was put, since all later ways part from the one to it
      refine List.forall_mem_cons.mpr ⟨?_, found⟩
      exact kept _ _ (fun later named => (parted.1 later named).symm) (follow_place done)
    · rw [List.forall_mem_cons] at parting
      exact kept others held parting.2 (follow_place_of_parting parting.1 done there)

/-- Of an object that vanishes nothing is left in place. -/
theorem pruned_of_vanishes (vanishes : (object members).vanishes) :
    (object members).pruned = .object [] := by
  cases members with
  | nil => cases vanishes
  | cons entry rest =>
    have each := membersVanish_iff.mp vanishes
    rw [pruned, prunedMembers_eq]
    rw [List.filter_eq_nil_iff.mpr fun entry named => by simp [each entry named]]
    rfl

/-- **The leaves of an object make it up again**, in whatever order they are put in place. -/
theorem exists_regrown (legible : (object members).Legible)
    (order : todo.Perm (object members).spots) :
    ∃ built, placeAll todo.length todo (.object []) = some built ∧
      Alike built (object members).pruned ∧
      ∀ spot ∈ (object members).spots, follow spot.1 built = some spot.2 := by
  have parted : todo.Pairwise Spot.Parts :=
    (order.pairwise_iff Parting.symm).mpr legible.addressable.pairwise_spots
  have seed : Budding (object members) (.object []) := .inl ⟨rfl, rfl⟩
  obtain ⟨built, done, grows, found, _⟩ := seed.placeAll legible
    (fun spot => order.mem_iff.mp) parted (Nat.le_of_eq order.length_eq.symm)
  have all : ∀ spot ∈ (object members).spots, follow spot.1 built = some spot.2 :=
    fun spot listed => found spot (order.mem_iff.mpr listed)
  refine ⟨built, done, ?_, all⟩
  rcases grows with ⟨rfl, rfl⟩ | grown
  · -- without any leaf nothing was put in place, and all members vanish
    rw [pruned_of_vanishes (vanishes_iff.mpr order.symm.eq_nil)]
    exact .same _
  · exact grown.alike_pruned legible all

end Whole

end SecondaryIndex.Json
