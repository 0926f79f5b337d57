/-
**Fields that anyone may have written.**

Of the fields of a record nothing is known but that each is listed once, in byte order:

* `FieldFault` — what is wrong with a field; it does not matter what else is in place
  (`placeField_eq_error_iff`), so fields are refused for the first fault among them
  (`rebuild_eq_error_iff`);
* `of_follow_place_array` — where a leaf is put in place, an array stays as long as it was, or it is
  one of the leaf, or it is not longer than the bound;
* `StoodIn` — an array was as long in a leaf that a field put there, and `follow_foldlM_array` — so
  was every array that has more items than there are fields;
* `read_of_any_fields` — what becomes of a record.
-/

import SecondaryIndex.Proofs.Entity.Attaching

namespace SecondaryIndex

open Json

/-! ## Part 1 — what is wrong with a field -/

/-- A segment between the dots of the path is the index of an item at or behind the bound. -/
def OutOfBounds (bound : Nat) (path : String) : Prop :=
  ∃ segment ∈ segments path, ∃ position, arrayIndex? segment = some position ∧ bound ≤ position

/-- **What is wrong with a field.** Its content is looked at only if its name is text, and its
indexes only if its content is JSON. -/
inductive FieldFault (bound : Nat) (field content : Bytes) : ConversionError → Prop
  | notText (illFormed : field.toText? = none) :
    FieldFault bound field content (.invalidField field)
  | notJson {path : String} {error : ReadError} (named : field.toText? = some path)
      (refused : Json.read content = .error error) :
    FieldFault bound field content (.invalidValue path error)
  | tooHigh {path : String} {leaf : Json} (named : field.toText? = some path)
      (parsed : Json.read content = .ok leaf) (outside : OutOfBounds bound path) :
    FieldFault bound field content (.invalidField field)

/-- The fault of the first of some fields, in byte order, that has one. -/
def FirstFault (fields : Fields) (error : ConversionError) : Prop :=
  ∃ field content, fields.get? field = some content ∧ FieldFault fields.size field content error ∧
    ∀ other held, fields.get? other = some held → other < field →
      ∀ reason, ¬ FieldFault fields.size other held reason

section Faults

variable {bound : Nat} {field content : Bytes} {error : ConversionError} {reason : ReadError}
  {path : String} {leaf value : Json} {fields : Fields}

theorem index_mem_steps_iff {position : Nat} : .index position ∈ steps path ↔
    ∃ segment ∈ segments path, arrayIndex? segment = some position := by
  have spelled (segment : List Char) :
      Step.ofSegment segment = .index position ↔ arrayIndex? segment = some position := by
    rw [Step.ofSegment]
    cases arrayIndex? segment <;> simp
  rw [steps, List.mem_map]
  simp only [spelled]

theorem tooHigh_steps_iff : TooHigh bound (steps path) ↔ OutOfBounds bound path := by
  simp only [TooHigh, OutOfBounds, index_mem_steps_iff]
  grind

/-! A field has at most one fault. -/

theorem fault_iff_of_notText (illFormed : field.toText? = none) :
    FieldFault bound field content error ↔ error = .invalidField field := by
  constructor
  · rintro (_ | ⟨named, _⟩ | ⟨named, _, _⟩)
    · rfl
    · cases illFormed.symm.trans named
    · cases illFormed.symm.trans named
  · rintro rfl
    exact .notText illFormed

theorem fault_iff_of_notJson (named : field.toText? = some path)
    (refused : Json.read content = .error reason) :
    FieldFault bound field content error ↔ error = .invalidValue path reason := by
  constructor
  · rintro (illFormed | ⟨text, json⟩ | ⟨_, json, _⟩)
    · cases illFormed.symm.trans named
    · cases named.symm.trans text
      cases refused.symm.trans json
      rfl
    · cases refused.symm.trans json
  · rintro rfl
    exact .notJson named refused

theorem fault_iff_of_parsed (named : field.toText? = some path)
    (parsed : Json.read content = .ok leaf) :
    FieldFault bound field content error ↔
      OutOfBounds bound path ∧ error = .invalidField field := by
  constructor
  · rintro (illFormed | ⟨_, refused⟩ | ⟨text, _, outside⟩)
    · cases illFormed.symm.trans named
    · cases parsed.symm.trans refused
    · cases named.symm.trans text
      exact ⟨outside, rfl⟩
  · rintro ⟨outside, rfl⟩
    exact .tooHigh named parsed outside

/-- **A field is refused for its fault**, whatever is in place. -/
theorem placeField_eq_error_iff :
    placeField bound value field content = .error error ↔ FieldFault bound field content error := by
  rw [placeField]
  cases named : field.toText? with
  | none => rw [fault_iff_of_notText named, Except.error.injEq, eq_comm]
  | some path =>
    dsimp only
    cases parsed : Json.read content with
    | error reason => rw [fault_iff_of_notJson named parsed, Except.error.injEq, eq_comm]
    | ok leaf =>
      rw [fault_iff_of_parsed named parsed, ← tooHigh_steps_iff, ← place_eq_none_iff]
      dsimp only
      cases place bound leaf (steps path) value with
      | none => rw [Except.error.injEq, eq_comm, and_iff_right rfl]
      | some after => simp

/-- A field has a fault exactly if its name is no text, its content no JSON, or an index in its path
too high. -/
theorem exists_fault_iff :
    (∃ error, FieldFault bound field content error) ↔
      field.toText? = none ∨ (∃ error, Json.read content = .error error) ∨
        ∃ path, field.toText? = some path ∧ OutOfBounds bound path := by
  cases named : field.toText? with
  | none => simp [fault_iff_of_notText named]
  | some path =>
    cases parsed : Json.read content with
    | error reason => simp [fault_iff_of_notJson named parsed]
    | ok leaf => simp [fault_iff_of_parsed named parsed]

/-- The first fault is that of a listed field behind way without any. -/
theorem firstFault_iff : FirstFault fields error ↔ ∃ before entry after,
    fields.entries = before ++ entry :: after ∧
      (∀ earlier ∈ before, ∀ reason, ¬ FieldFault fields.size earlier.1 earlier.2 reason) ∧
      FieldFault fields.size entry.1 entry.2 error := by
  have sorted := fields.sorted
  constructor
  · rintro ⟨field, content, found, fault, first⟩
    obtain ⟨before, after, split⟩ := List.append_of_mem (ByteMap.mem_entries.mpr found)
    rw [split, List.pairwise_append] at sorted
    refine ⟨before, (field, content), after, split, fun earlier listed => ?_, fault⟩
    have inside : earlier ∈ fields.entries := split ▸ List.mem_append_left _ listed
    exact first _ _ (ByteMap.mem_entries.mp inside)
      (sorted.2.2 earlier listed _ List.mem_cons_self)
  · rintro ⟨before, ⟨field, content⟩, after, split, clean, fault⟩
    rw [split, List.pairwise_append, List.pairwise_cons] at sorted
    have listed : (field, content) ∈ fields.entries :=
      split ▸ List.mem_append_right _ List.mem_cons_self
    refine ⟨field, content, ByteMap.mem_entries.mp listed, fault, fun other held found less => ?_⟩
    have either := ByteMap.mem_entries.mpr found
    rw [split, List.mem_append, List.mem_cons] at either
    rcases either with earlier | same | later
    · exact clean _ earlier
    · cases same
      exact (List.lt_irrefl _ less).elim
    · exact (List.lt_irrefl _ (List.lt_trans less (sorted.2.1.1 _ later))).elim

/-- **Fields are refused for the first fault among them.** -/
theorem rebuild_eq_error_iff : rebuild fields = .error error ↔ FirstFault fields error :=
  (foldlM_eq_error_iff
    (fun _ (entry : Bytes × Bytes) _ => @placeField_eq_error_iff _ entry.1 entry.2 ..)).trans
      firstFault_iff.symm

open Classical in
/-- There is a first fault exactly if some field has one. -/
theorem exists_firstFault_iff :
    (∃ error, FirstFault fields error) ↔
      ∃ field content, fields.get? field = some content ∧
        ∃ error, FieldFault fields.size field content error := by
  constructor
  · rintro ⟨error, field, content, found, fault, _⟩
    exact ⟨field, content, found, error, fault⟩
  · rintro ⟨field, content, found, error, fault⟩
    cases searched : fields.entries.find? fun entry =>
        decide (∃ error, FieldFault fields.size entry.1 entry.2 error) with
    | none =>
      have clean := List.find?_eq_none.mp searched _ (ByteMap.mem_entries.mpr found)
      exact (clean (decide_eq_true ⟨error, fault⟩)).elim
    | some first =>
      obtain ⟨faulty, before, after, split, clean⟩ := List.find?_eq_some_iff_append.mp searched
      obtain ⟨reason, wrong⟩ := of_decide_eq_true faulty
      refine ⟨reason, firstFault_iff.mpr ⟨before, first, after, split, ?_, wrong⟩⟩
      intro earlier listed other also
      have none : ¬ ∃ error, FieldFault fields.size earlier.1 earlier.2 error := by
        simpa using clean earlier listed
      exact none ⟨other, also⟩

/-- No entity is read of fields with a fault. -/
theorem FirstFault.early (first : FirstFault fields error) (reason : ShapeError) :
    error ≠ .deserialize reason := by
  obtain ⟨_, _, _, fault, _⟩ := first
  cases fault <;> exact ConversionError.noConfusion

end Faults

/-! ## Part 2 — arrays -/

section Arrays

variable {bound : Nat} {leaf target placed : Json} {step : Step} {places way : List Step}
  {items : List Json}

/-- Inside null there is no array. -/
theorem follow_null : follow way .null ≠ some (.array items) := by
  cases way with
  | nil => exact fun same => nomatch same
  | cons step way => cases step <;> exact fun same => nomatch same

/-- The array is one of the value that was there before, as long as it is now, or it is not longer
than the bound. -/
def Held (bound : Nat) (way : List Step) (items : List Json) (target : Json) : Prop :=
  items.length ≤ bound ∨ ∃ old, follow way target = some (.array old) ∧ old.length = items.length

theorem Held.of_child (held : Held bound way items ((child? step target).getD .null)) :
    Held bound (step :: way) items target := by
  refine held.imp_right fun ⟨old, found, same⟩ => ⟨old, ?_, same⟩
  rw [follow]
  cases there : child? step target with
  | some child =>
    rw [there] at found
    exact found
  | none =>
    rw [there] at found
    exact (follow_null found).elim

/-- An array grows no further than to the bound. -/
theorem held_of_place (done : place bound leaf (step :: places) target = some (.array items)) :
    Held bound [] items target := by
  cases step with
  | key name =>
    obtain ⟨_, _, same⟩ := place_key.mp done
    cases same
  | index position =>
    obtain ⟨low, _, _, same⟩ := place_index.mp done
    cases same
    rw [Held, List.length_set, length_padded]
    by_cases short : (itemsOf target).length ≤ position + 1
    · exact .inl (by omega)
    · -- only an array has items, and this one was long enough
      cases target with
      | array old => exact .inr ⟨old, rfl, by simp only [itemsOf] at short ⊢; omega⟩
      | _ => exact (short (Nat.zero_le _)).elim

/-- **An array in a value with one more leaf in place** is one of the leaf, or it is elsewhere.
There it is not longer than the bound, unless it was so long before. -/
theorem of_follow_place_array (done : place bound leaf places target = some placed)
    (found : follow way placed = some (.array items)) :
    (∃ rest, way = places ++ rest ∧ follow rest leaf = some (.array items)) ∨
      (¬ places <+: way ∧ Held bound way items target) := by
  induction places generalizing way target placed with
  | nil =>
    cases done
    exact .inl ⟨way, rfl, found⟩
  | cons step places ih =>
    cases way with
    | nil =>
      cases found
      refine .inr ⟨fun prior => ?_, held_of_place done⟩
      exact List.cons_ne_nil _ _ (List.prefix_nil.mp prior)
    | cons other way =>
      obtain ⟨slot, filled, there, elsewhere⟩ := exists_child_place done
      obtain ⟨child, reached, further⟩ := Option.bind_eq_some_iff.mp found
      by_cases same : other = step
      · subst same
        cases reached.symm.trans there
        rcases ih filled further with ⟨rest, rfl, inLeaf⟩ | ⟨apart, held⟩
        · exact .inl ⟨rest, rfl, inLeaf⟩
        · refine .inr ⟨?_, held.of_child⟩
          rwa [List.cons_prefix_cons, and_iff_right rfl]
      · refine .inr ⟨fun prior => same (List.cons_prefix_cons.mp prior).1.symm, ?_⟩
        rcases (elsewhere other child (Ne.symm same)).2 reached with before | rfl
        · exact .inr ⟨items, Option.bind_eq_some_iff.mpr ⟨child, before, further⟩, rfl⟩
        · exact (follow_null further).elim

end Arrays

/-! ## Part 3 — all fields -/

/-- **An array stood in a leaf with so many items.** Of the fields whose way leads to it or to
something around it, the last one has a leaf with such an array there. -/
def StoodIn (entries : List (Bytes × Bytes)) (way : List Step) (length : Nat) : Prop :=
  ∃ before field content after, entries = before ++ (field, content) :: after ∧
    (∃ path leaf rest inner, field.toText? = some path ∧ Json.read content = .ok leaf ∧
      way = steps path ++ rest ∧ follow rest leaf = some (.array inner) ∧
      inner.length = length) ∧
    ∀ later ∈ after, ∀ path, later.1.toText? = some path → ¬ steps path <+: way

section Rebuilt

variable {bound : Nat} {target placed value : Json} {field content : Bytes} {fields : Fields}
  {way : List Step} {items : List Json} {entries : List (Bytes × Bytes)} {length : Nat}

/-- A later field that does not reach an array leaves it where it stood. -/
theorem StoodIn.concat (stood : StoodIn entries way length) {path : String}
    (named : field.toText? = some path) (apart : ¬ steps path <+: way) :
    StoodIn (entries ++ [(field, content)]) way length := by
  obtain ⟨before, one, held, after, rfl, inside, behind⟩ := stood
  refine ⟨before, one, held, after ++ [(field, content)], by simp, inside, fun later listed => ?_⟩
  rcases List.mem_append.mp listed with earlier | last
  · exact behind later earlier
  · cases List.mem_singleton.mp last
    intro other same
    cases named.symm.trans same
    exact apart

/-- **Each array in a value made of fields** is not longer than the bound, or it stood in a leaf. -/
theorem follow_foldlM_array
    (done : entries.foldlM (fun value field => placeField bound value field.1 field.2)
      (.object []) = .ok value)
    (found : follow way value = some (.array items)) :
    items.length ≤ bound ∨ StoodIn entries way items.length := by
  induction entries using List.reverseRecOn generalizing value way items with
  | nil =>
    cases done
    match way with
    | [] => cases found
    | .key name :: way => cases found
    | .index position :: way => cases found
  | append_singleton entries entry ih =>
    obtain ⟨field, content⟩ := entry
    rw [List.foldlM_append] at done
    cases built : entries.foldlM (fun value field => placeField bound value field.1 field.2)
        (.object []) with
    | error error =>
      rw [built] at done
      cases done
    | ok target =>
      rw [built] at done
      have last : placeField bound target field content = .ok value := by
        rw [← bind_pure (placeField bound target field content)]
        exact done
      obtain ⟨path, leaf, named, parsed, placed⟩ := of_placeField last
      rcases of_follow_place_array placed found with ⟨rest, split, inLeaf⟩ | ⟨apart, held⟩
      · exact .inr ⟨entries, field, content, [], rfl,
          ⟨path, leaf, rest, items, named, parsed, split, inLeaf, rfl⟩, nofun⟩
      · rcases held with few | ⟨old, there, same⟩
        · exact .inl few
        · rw [← same]
          exact (ih built there).imp_right fun stood => stood.concat named apart

theorem follow_idValue (id : Bytes) : follow way (idValue id) ≠ some (.array items) := by
  intro found
  rw [idValue] at found
  split at found <;> rcases way with _ | ⟨_ | _, _⟩ <;> cases found

theorem distinct_attachId {schema : Schema} {record : Record} (distinct : target.Distinct)
    (attached : attachId schema record target = .ok value) : value.Distinct := by
  have single : (idValue record.id).Distinct := by
    rw [idValue]
    split <;> trivial
  rw [attachId] at attached
  split at attached
  · cases attached
    exact distinct
  · split at attached
    · cases attached
      exact distinct
    · split at attached
      · rename_i placed done
        cases attached
        exact distinct_place distinct single done
      · cases attached

/-- An id brings no array with it. -/
theorem follow_attachId_array {schema : Schema} {record : Record}
    (attached : attachId schema record target = .ok value)
    (found : follow way value = some (.array items)) :
    Held record.fields.size way items target := by
  rw [attachId] at attached
  split at attached
  · cases attached
    exact .inr ⟨items, found, rfl⟩
  · split at attached
    · cases attached
      exact .inr ⟨items, found, rfl⟩
    · split at attached
      · rename_i placed done
        cases attached
        rcases of_follow_place_array done found with ⟨rest, _, inId⟩ | ⟨_, held⟩
        · exact (follow_idValue _ inId).elim
        · exact held
      · cases attached

end Rebuilt

section Records

variable {type : EntityType} {record : Record}

/-- **What becomes of a record with any fields**, if the way to the id goes through no array.
It is refused before an entity is read exactly if one of its fields has a fault, and then for the
first one in byte order. Otherwise an entity is read from a value in which no object repeats a key,
so that each array in it is at the end of some steps, and no array has more items than there are
fields, unless it had as many in a leaf. -/
theorem read_of_any_fields (unindexed : Unindexed type.schema) (record : Record) :
    ((∃ error, type.read record = .error error ∧ ∀ reason, error ≠ .deserialize reason) ↔
      ∃ field content, record.fields.get? field = some content ∧
        (field.toText? = none ∨ (∃ error, Json.read content = .error error) ∨
          ∃ path, field.toText? = some path ∧ OutOfBounds record.fields.size path)) ∧
    (∀ error, (type.read record = .error error ∧ ∀ reason, error ≠ .deserialize reason) ↔
      FirstFault record.fields error) ∧
    ((∀ error, ¬ FirstFault record.fields error) → ∃ value attached,
      rebuild record.fields = .ok value ∧ attachId type.schema record value = .ok attached ∧
      type.read record = (type.shape.read attached).mapError .deserialize ∧ attached.Distinct ∧
      ∀ way items, follow way attached = some (.array items) →
        items.length ≤ record.fields.size ∨
          StoodIn record.fields.entries way items.length) := by
  have refused (error : ConversionError) :
      (type.read record = .error error ∧ ∀ reason, error ≠ .deserialize reason) ↔
        FirstFault record.fields error := by
    rw [← rebuild_eq_error_iff]
    constructor
    · rintro ⟨failed, early⟩
      exact (read_eq_error_iff unindexed early).mp failed
    · intro failed
      have early : ∀ reason, error ≠ .deserialize reason := (rebuild_eq_error_iff.mp failed).early
      exact ⟨(read_eq_error_iff unindexed early).mpr failed, early⟩
  refine ⟨?_, refused, fun clean => ?_⟩
  · simp only [refused, exists_firstFault_iff, exists_fault_iff]
  · cases rebuilt : rebuild record.fields with
    | error error => exact (clean error (rebuild_eq_error_iff.mp rebuilt)).elim
    | ok value =>
      obtain ⟨attached, done⟩ := exists_attached unindexed record value
      have distinct := distinct_attachId (distinct_rebuild rebuilt) done
      refine ⟨value, attached, rfl, done, ?_, distinct, fun way items found => ?_⟩
      · exact read_of_attached rebuilt done
      · rcases follow_attachId_array done found with few | ⟨old, there, same⟩
        · exact .inl few
        · rw [← same]
          exact follow_foldlM_array rebuilt there

end Records

/-- A town with fields that were not made of a town: the content of one is no JSON, and the index of
a later one is too high. -/
def forgedTown : Record :=
  (Write.ofTexts "towns" "tear" [("note", "port"), ("tags", "[1,2,3,4]"), ("tags.[9]", "5")] []
    []).record

/-- A town with more tags in a leaf than it has fields. -/
def manyTags : Record :=
  (Write.ofTexts "towns" "tear" [("tags", "[1,2,3,4]"), ("tags.[1]", "5")] [] []).record

/-- The second of four tags was replaced, and the id is that of the record. -/
theorem read_of_any_fields_towns :
    Unindexed taggedTown.schema ∧
      taggedTown.read forgedTown = .error (.invalidValue "note" ⟨.expectedValue, 1, 1⟩) ∧
      (∀ error, ¬ FirstFault manyTags.fields error) ∧ manyTags.fields.size = 2 ∧
      ∃ attached,
        taggedTown.read manyTags = (taggedTown.shape.read attached).mapError .deserialize ∧
        (follow [.key "tags"] attached).map Json.render = some "[1,5,3,4]" ∧
        StoodIn manyTags.fields.entries [.key "tags"] 4 := by
  have forged : rebuild forgedTown.fields =
      .error (.invalidValue "note" ⟨.expectedValue, 1, 1⟩) := by decide +kernel
  have refused := ((read_of_any_fields unindexed_taggedTown forgedTown).2.1 _).mpr
    (rebuild_eq_error_iff.mp forged)
  have rebuilt : (rebuild manyTags.fields).isOk := by decide +kernel
  obtain ⟨whole, made⟩ := exists_of_isOk rebuilt
  have clean (error : ConversionError) : ¬ FirstFault manyTags.fields error := fun first =>
    nomatch made.symm.trans (rebuild_eq_error_iff.mpr first)
  have size : manyTags.fields.size = 2 := by decide +kernel
  obtain ⟨value, attached, same, done, read, _, arrays⟩ :=
    (read_of_any_fields unindexed_taggedTown manyTags).2.2 clean
  have tags : (((rebuild manyTags.fields).bind (attachId taggedTown.schema manyTags)).map
      (follow [.key "tags"])).toOption =
        some (some (.array ([1, 5, 3, 4].map fun tag => .number (.ofInt tag)))) := by decide +kernel
  rw [same] at tags
  change (((attachId taggedTown.schema manyTags value).map _).toOption) = _ at tags
  rw [done] at tags
  have found := Option.some.inj tags
  refine ⟨unindexed_taggedTown, refused.1, clean, size, attached, read, ?_, ?_⟩
  · rw [found]
    decide +kernel
  · refine (arrays _ _ found).resolve_left ?_
    rw [size]
    decide

end SecondaryIndex
