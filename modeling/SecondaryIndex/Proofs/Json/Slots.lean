/-
**Reading a value into which one part was put.**

A shape has a slot at the end of some steps if a value needs just one more part there to have it:

* `Shape.Slot` — all that is beside the way fits, so far as it is needed;
* `Shape.Mirrors` — a whole is read as its part is: with the same error, or with what is read of the
  part at its place;
* `mirrors_sequence` and `mirrors_record` — a sequence mirrors one of its items, and a record one of
  its members, if the others fit;
* `Slot.mirrors` — so a shape with a slot mirrors what is put there.
-/

import SecondaryIndex.Json.Shape
import SecondaryIndex.Proofs.Json.Growth
import SecondaryIndex.Proofs.Outcomes

namespace SecondaryIndex.Json

namespace Shape

/-- What a record is given for a member is of its shape, or it is not needed. -/
def fits (shape : Shape) : Option Json → Bool
  | some held => (shape.read held).isOk
  | none => shape.default?.isSome

/-- **The value has the shape but for one part**, which is at the end of the steps. -/
inductive Slot (inner : Shape) : Shape → List Step → Json → Prop where
  | here (target : Json) : Slot inner inner [] target
  | optional {shape : Shape} {steps : List Step} {target : Json}
      (slot : Slot inner shape steps target) : Slot inner (.optional shape) steps target
  | member {record name : String} {fields : List (String × Shape)} {hidden : List String}
      {shape : Shape} {steps : List Step} {target : Json}
      (declared : fields.lookup name = some shape)
      (others : ∀ field ∈ fields, field.1 ≠ name → field.2.fits (target.membersOf.lookup field.1))
      (slot : Slot inner shape steps ((target.membersOf.lookup name).getD .null)) :
      Slot inner (.record record fields hidden) (.key name :: steps) target
  | item {shape : Shape} {position : Nat} {steps : List Step} {target : Json}
      (others : ∀ (index : Nat) (item : Json), (padded target.itemsOf position)[index]? = some item →
        index ≠ position → (shape.read item).isOk)
      (slot : Slot inner shape steps (target.itemsOf[position]?.getD .null)) :
      Slot inner (.sequence shape) (.index position :: steps) target

/-- **A whole is read as its part is.** If the part is not read, then there is the same error for the
whole; and if it is read, then so is the whole, and the part is at the end of the steps. -/
def Mirrors (steps : List Step) (part whole : Except ShapeError Json) : Prop :=
  match part with
  | .error error => whole = .error error
  | .ok settled => ∃ value, whole = .ok value ∧ value ≠ .null ∧ follow steps value = some settled

variable {inner shape : Shape} {steps rest : List Step} {step : Step} {target leaf placed : Json}
  {part middle whole : Except ShapeError Json}

theorem Mirrors.ne_null {settled : Json} (mirrors : Mirrors steps part whole)
    (read : whole = .ok settled) : settled ≠ .null := by
  subst read
  cases part with
  | error error => cases mirrors
  | ok part =>
    obtain ⟨value, same, filled, _⟩ := mirrors
    cases same
    exact filled

theorem Mirrors.trans (first : Mirrors rest part middle) (second : Mirrors [step] middle whole) :
    Mirrors (step :: rest) part whole := by
  cases part with
  | error error =>
    have failed : middle = .error error := first
    subst failed
    exact second
  | ok settled =>
    obtain ⟨value, read, _, found⟩ := first
    subst read
    obtain ⟨outer, done, some, there⟩ := second
    refine ⟨outer, done, some, ?_⟩
    obtain ⟨child, held, here⟩ := Option.bind_eq_some_iff.mp there
    cases here
    exact Option.bind_eq_some_iff.mpr ⟨_, held, found⟩

/-! ## Part 1 — sequences -/

/-- **A sequence mirrors each of its items**, if all the others fit. -/
theorem mirrors_sequence {items : List Json} {position : Nat} {slot : Json}
    (here : items[position]? = some slot)
    (others : ∀ (index : Nat) (item : Json), items[index]? = some item → index ≠ position →
      (shape.read item).isOk) :
    Mirrors [.index position] (shape.read slot) ((sequence shape).read (.array items)) := by
  rw [read]
  cases done : shape.read slot with
  | error error =>
    show Except.map array _ = _
    rw [mapM_eq_error here done others]
    rfl
  | ok settled =>
    have each : ∀ item ∈ items, (shape.read item).isOk := by
      intro item listed
      obtain ⟨index, found⟩ := List.mem_iff_getElem?.mp listed
      by_cases same : index = position
      · subst same
        cases here.symm.trans found
        rw [done]
        rfl
      · exact others index item found same
    obtain ⟨values, all, found⟩ := exists_mapM_eq_ok each
    refine ⟨.array values, ?_, Json.noConfusion, ?_⟩
    · rw [all]
      rfl
    · exact Option.bind_eq_some_iff.mpr ⟨settled, found position slot settled here done, rfl⟩

/-! ## Part 2 — records -/

section Records

variable {fields : List (String × Shape)} {members found : List (String × Json)}
  {name other record : String} {hidden : List String} {slot settled : Json}

/-- The form of a named member, if the record declares it and it fits. -/
def settled? (fields : List (String × Shape)) (name : String) (value : Json) : Option Json :=
  (readField fields name value).bind Except.toOption

/-- The declared ones of some members, in their settled forms. -/
def known (fields : List (String × Shape)) (members : List (String × Json)) :
    List (String × Json) :=
  members.filterMap fun entry => (settled? fields entry.1 entry.2).map (entry.1, ·)

/-- One more member of a record is read. -/
def readMember (fields : List (String × Shape)) (found : List (String × Json))
    (entry : String × Json) : Except ShapeError (List (String × Json)) :=
  match readField fields entry.1 entry.2 with
  | none => .ok found
  | some outcome =>
    if (found.lookup entry.1).isSome then .error (.duplicateField entry.1)
    else outcome.map fun settled => found ++ [(entry.1, settled)]

theorem readField_eq (fields : List (String × Shape)) (name : String) (value : Json) :
    readField fields name value = (fields.lookup name).map fun shape => shape.read value := by
  induction fields with
  | nil => rfl
  | cons field fields ih =>
    obtain ⟨declared, shape⟩ := field
    rw [readField, Entries.lookup_cons_eq]
    by_cases same : declared = name
    · rw [if_pos same, if_pos same.symm]
      rfl
    · rw [if_neg same, if_neg (Ne.symm same), ih]

theorem read_object : (Shape.record record fields hidden).read (.object members) = do
    let found ← members.foldlM (readMember fields) []
    let settled ← settle found fields
    return .object (shown hidden settled) := by
  rw [read]
  rfl

theorem known_cons (fields : List (String × Shape)) (name : String) (value : Json)
    (members : List (String × Json)) : known fields ((name, value) :: members) =
      ((settled? fields name value).map (name, ·)).toList ++ known fields members := by
  cases form : settled? fields name value with
  | none => exact List.filterMap_cons_none (congrArg _ form)
  | some settled => exact List.filterMap_cons_some (congrArg _ form)

theorem lookup_known (nodup : (members.map Prod.fst).Nodup) (name : String) :
    (known fields members).lookup name = (members.lookup name).bind (settled? fields name) := by
  induction members with
  | nil => rfl
  | cons entry members ih =>
    obtain ⟨first, value⟩ := entry
    rw [List.map_cons, List.nodup_cons] at nodup
    rw [known_cons, Entries.lookup_cons_eq]
    by_cases same : name = first
    · subst same
      rw [if_pos rfl, Option.bind_some]
      cases settled? fields name value with
      | none =>
        show (known fields members).lookup name = none
        rw [ih nodup.2, Entries.lookup_eq_none_of_notMem nodup.1]
        rfl
      | some settled => exact (Entries.lookup_cons_eq ..).trans (if_pos rfl)
    · rw [if_neg same, ← ih nodup.2]
      cases settled? fields first value with
      | none => rfl
      | some settled => exact (Entries.lookup_cons_eq ..).trans (if_neg same)

/-- Members that fit, so far as they are declared, are read as they are. -/
theorem foldlM_readMember (nodup : (members.map Prod.fst).Nodup)
    (apart : ∀ name ∈ members.map Prod.fst, found.lookup name = none)
    (each : ∀ entry ∈ members, ∀ shape, fields.lookup entry.1 = some shape →
      (shape.read entry.2).isOk) :
    members.foldlM (readMember fields) found = .ok (found ++ known fields members) := by
  induction members generalizing found with
  | nil =>
    rw [known, List.filterMap_nil, List.append_nil]
    rfl
  | cons entry members ih =>
    obtain ⟨name, value⟩ := entry
    rw [List.map_cons, List.nodup_cons] at nodup
    rw [List.map_cons, List.forall_mem_cons] at apart
    rw [List.forall_mem_cons] at each
    rw [List.foldlM_cons, readMember, known_cons, settled?, readField_eq]
    cases declared : fields.lookup name with
    | none => exact ih nodup.2 apart.2 each.2
    | some shape =>
      obtain ⟨settled, read⟩ := exists_of_isOk (each.1 shape declared)
      -- keys are listed once, so none of the rest was found already
      have fresh : ∀ other ∈ members.map Prod.fst,
          (found ++ [(name, settled)]).lookup other = none := by
        intro other listed
        have different : other ≠ name := fun same => nodup.1 (same ▸ listed)
        rw [List.lookup_append, apart.2 other listed, Entries.lookup_cons_eq, if_neg different]
        rfl
      have rest := ih nodup.2 fresh each.2
      rw [List.append_assoc] at rest
      simp only [Option.map_some, read, apart.1, Option.isSome_none, Bool.false_eq_true, if_false]
      exact rest

/-- The first member that does not fit is in the way of the record. -/
theorem foldlM_readMember_eq_error {error : ShapeError} (nodup : (members.map Prod.fst).Nodup)
    (here : members.lookup name = some slot) (declared : fields.lookup name = some shape)
    (failed : shape.read slot = .error error)
    (others : ∀ entry ∈ members, entry.1 ≠ name → ∀ shape, fields.lookup entry.1 = some shape →
      (shape.read entry.2).isOk) :
    members.foldlM (readMember fields) [] = .error error := by
  obtain ⟨before, after, rfl⟩ := List.append_of_mem (Entries.mem_of_lookup here)
  rw [List.map_append, List.map_cons, List.nodup_append] at nodup
  obtain ⟨first, _, different⟩ := nodup
  -- all before the member are read, and what is behind it is not looked at
  have fit : ∀ entry ∈ before, ∀ shape, fields.lookup entry.1 = some shape →
      (shape.read entry.2).isOk := fun entry listed =>
    others entry (List.mem_append_left _ listed)
      (different entry.1 (List.mem_map_of_mem listed) name List.mem_cons_self)
  have fresh : (known fields before).lookup name = none := by
    rw [lookup_known first, Entries.lookup_eq_none_of_notMem fun listed =>
      different name listed name List.mem_cons_self rfl]
    rfl
  rw [List.foldlM_append, foldlM_readMember first (fun _ _ => rfl) fit, List.nil_append]
  show ((name, slot) :: after).foldlM (readMember fields) (known fields before) = _
  rw [List.foldlM_cons, readMember, readField_eq, declared]
  simp only [Option.map_some, fresh, Option.isSome_none, Bool.false_eq_true, if_false, failed]
  rfl

/-- What a record holds for a declared member: what was found of it, or its default. -/
def held (found : List (String × Json)) (field : String × Shape) : Option Json :=
  (found.lookup field.1).or field.2.default?

/-- The members of a record, each as it was found or as its default. -/
def completed (fields : List (String × Shape)) (found : List (String × Json)) :
    List (String × Json) :=
  fields.map fun field => (field.1, (held found field).getD .null)

theorem settle_eq (each : ∀ field ∈ fields, (held found field).isSome) :
    settle found fields = .ok (completed fields found) := by
  induction fields with
  | nil => rfl
  | cons field fields ih =>
    obtain ⟨name, shape⟩ := field
    rw [List.forall_mem_cons] at each
    obtain ⟨value, here⟩ := Option.isSome_iff_exists.mp each.1
    have form : completed ((name, shape) :: fields) found =
        (name, value) :: completed fields found := by
      rw [completed, List.map_cons, here]
      rfl
    change (found.lookup name).or shape.default? = some value at here
    rw [settle, here, ih each.2, form]
    rfl

theorem shown_cons (hidden : List String) (name : String) (value : Json)
    (members : List (String × Json)) : shown hidden ((name, value) :: members) =
      if name ∈ hidden ∧ value = .null then shown hidden members
      else (name, value) :: shown hidden members := by
  by_cases gone : name ∈ hidden ∧ value = .null
  · rw [if_pos gone]
    exact List.filter_cons_of_neg (by simpa using gone)
  · rw [if_neg gone]
    rw [not_and_or] at gone
    exact List.filter_cons_of_pos (by simpa using gone)

/-- A member that is not null is shown. -/
theorem lookup_shown (here : members.lookup name = some settled) (filled : settled ≠ .null) :
    (shown hidden members).lookup name = some settled := by
  induction members with
  | nil => cases here
  | cons entry members ih =>
    obtain ⟨first, value⟩ := entry
    rw [Entries.lookup_cons_eq] at here
    rw [shown_cons]
    by_cases same : name = first
    · rw [if_pos same] at here
      cases here
      rw [if_neg (by simp [filled]), Entries.lookup_cons_eq, if_pos same]
    · rw [if_neg same] at here
      split
      · exact ih here
      · rw [Entries.lookup_cons_eq, if_neg same, ih here]

theorem lookup_completed (declared : fields.lookup name = some shape)
    (here : found.lookup name = some settled) :
    (completed fields found).lookup name = some settled := by
  induction fields with
  | nil => cases declared
  | cons field fields ih =>
    obtain ⟨first, other⟩ := field
    rw [Entries.lookup_cons_eq] at declared
    rw [completed, List.map_cons, Entries.lookup_cons_eq]
    by_cases same : name = first
    · subst same
      rw [if_pos rfl, held, here]
      rfl
    · rw [if_neg same] at declared
      rw [if_neg same]
      exact ih declared

/-- Members that fit are settled, with what is not needed left to its default. -/
theorem isSome_held (nodup : (members.map Prod.fst).Nodup) {field : String × Shape}
    (listed : field ∈ fields) (fits : field.2.fits (members.lookup field.1))
    (each : ∀ entry ∈ members, ∀ shape, fields.lookup entry.1 = some shape →
      (shape.read entry.2).isOk) : (held (known fields members) field).isSome := by
  rw [held, lookup_known nodup]
  cases there : members.lookup field.1 with
  | none =>
    rw [there] at fits
    exact fits
  | some value =>
    obtain ⟨shape, declared⟩ : ∃ shape, fields.lookup field.1 = some shape := by
      cases declared : fields.lookup field.1 with
      | some shape => exact ⟨shape, rfl⟩
      | none => simpa using List.lookup_eq_none_iff.mp declared field listed
    obtain ⟨settled, read⟩ := exists_of_isOk (each _ (Entries.mem_of_lookup there) shape declared)
    rw [Option.bind_some, settled?, readField_eq, declared, Option.map_some, Option.bind_some, read]
    rfl

/-- **A record mirrors each of its members**, if all the others fit and are there so far as they are
needed. -/
theorem mirrors_record (nodup : (members.map Prod.fst).Nodup)
    (here : members.lookup name = some slot) (declared : fields.lookup name = some shape)
    (others : ∀ field ∈ fields, field.1 ≠ name → field.2.fits (members.lookup field.1))
    (filled : ∀ settled, shape.read slot = .ok settled → settled ≠ .null) :
    Mirrors [.key name] (shape.read slot)
      ((Shape.record record fields hidden).read (.object members)) := by
  have fit : ∀ entry ∈ members, entry.1 ≠ name → ∀ shape, fields.lookup entry.1 = some shape →
      (shape.read entry.2).isOk := by
    intro entry listed different shape known
    have fits := others (entry.1, shape) (Entries.mem_of_lookup known) different
    rwa [(Entries.lookup_eq_some_iff nodup).mpr listed] at fits
  rw [read_object]
  cases read : shape.read slot with
  | error error =>
    show _ = _
    rw [foldlM_readMember_eq_error nodup here declared read fit]
    rfl
  | ok settled =>
    have all : ∀ entry ∈ members, ∀ shape, fields.lookup entry.1 = some shape →
        (shape.read entry.2).isOk := by
      intro entry listed other known
      by_cases same : entry.1 = name
      · have value : members.lookup entry.1 = some entry.2 :=
          (Entries.lookup_eq_some_iff nodup).mpr listed
        rw [same] at value known
        cases here.symm.trans value
        cases declared.symm.trans known
        rw [read]
        rfl
      · exact fit entry listed same other known
    have found : (known fields members).lookup name = some settled := by
      rw [lookup_known nodup, here, Option.bind_some, settled?, readField_eq, declared,
        Option.map_some, read]
      rfl
    have settles : ∀ field ∈ fields, (held (known fields members) field).isSome := by
      intro field listed
      by_cases same : field.1 = name
      · rw [held, same, found]
        rfl
      · exact isSome_held nodup listed (others field listed same) all
    refine ⟨.object (shown hidden (completed fields (known fields members))), ?_,
      Json.noConfusion, ?_⟩
    · rw [foldlM_readMember nodup (fun _ _ => rfl) all, List.nil_append]
      show (settle (known fields members) fields >>= _) = _
      rw [settle_eq settles]
      rfl
    · have there : (shown hidden (completed fields (known fields members))).lookup name =
          some settled := lookup_shown (lookup_completed declared found) (filled _ read)
      exact Option.bind_eq_some_iff.mpr ⟨settled, there, rfl⟩

end Records

/-! ## Part 3 — slots -/

theorem read_optional (filled : leaf ≠ .null) :
    (Shape.optional shape).read leaf = shape.read leaf := by
  cases leaf with
  | null => exact (filled rfl).elim
  | _ => rw [read]; exact Json.noConfusion

/-- **A shape with a slot mirrors what is put there**, and then the whole is not null. -/
theorem Slot.mirrors {bound : Nat} (slot : Slot inner shape steps target)
    (distinct : target.Distinct) (filled : leaf ≠ .null)
    (holds : ∀ settled, inner.read leaf = .ok settled → settled ≠ .null)
    (done : place bound leaf steps target = some placed) :
    placed ≠ .null ∧ Mirrors steps (inner.read leaf) (shape.read placed) := by
  induction slot generalizing placed with
  | here target =>
    cases done
    refine ⟨filled, ?_⟩
    cases read : inner.read leaf with
    | error error => rfl
    | ok settled => exact ⟨settled, rfl, holds settled read, rfl⟩
  | optional slot ih =>
    obtain ⟨some, mirrors⟩ := ih distinct done
    exact ⟨some, (read_optional some).symm ▸ mirrors⟩
  | @member record name fields hidden shape steps target declared others slot ih =>
    obtain ⟨part, inside, rfl⟩ := place_key.mp done
    obtain ⟨nodup, each⟩ := distinct.membersOf
    have known : ((target.membersOf.lookup name).getD .null).Distinct :=
      distinct_getD fun value found => each _ (Entries.mem_of_lookup found)
    obtain ⟨_, mirrors⟩ := ih known inside
    have beside : ∀ field ∈ fields, field.1 ≠ name → field.2.fits
        ((InsertionMap.insertEntry name part target.membersOf).lookup field.1) := by
      intro field listed different
      rw [InsertionMap.lookup_insertEntry, if_neg different]
      exact others field listed different
    have there : (InsertionMap.insertEntry name part target.membersOf).lookup name = some part := by
      rw [InsertionMap.lookup_insertEntry, if_pos rfl]
    exact ⟨Json.noConfusion, mirrors.trans (mirrors_record
      (InsertionMap.nodup_insertEntry name part nodup) there declared beside
      fun settled read => mirrors.ne_null read)⟩
  | @item shape position steps target others slot ih =>
    obtain ⟨_, part, inside, rfl⟩ := place_index.mp done
    have known : (target.itemsOf[position]?.getD .null).Distinct :=
      distinct_getD fun value found => distinct.itemsOf _ (List.mem_of_getElem? found)
    obtain ⟨_, mirrors⟩ := ih known inside
    have there : ((padded target.itemsOf position).set position part)[position]? = some part :=
      List.getElem?_set_self lt_length_padded
    refine ⟨Json.noConfusion, mirrors.trans (mirrors_sequence there ?_)⟩
    intro index item found different
    rw [List.getElem?_set_ne (Ne.symm different)] at found
    exact others index item found different

end Shape

end SecondaryIndex.Json
