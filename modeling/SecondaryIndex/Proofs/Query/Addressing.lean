/-
**When a query for the value that an entity has finds the entity.**

An index entry holds the text of a value as JSON spells it, and a query asks for the text that the
value has as an index value. The two spellings are made apart from each other:

* `Decimal.SpelledAlike` and `Decimal.decoded_eq_iff` — a finite number has one text in both exactly
  if it has a fraction, is not too small, and has one shortest decimal on both sides;
* `Scalar.Serializes` and `Scalar.exists_serializes_iff` — the JSON form of a scalar, and which
  scalars have one;
* `Scalar.Serializes.ofJson?_eq_ofScalar_iff` — texts, characters, booleans and integers are always
  spelled alike;
* `entry_is_queried_text_iff` — the entry of a scalar is what a query for the scalar asks for
  exactly if it is spelled alike, and then the query names the entity;
* `whole_size_is_not_found` — a whole double is not spelled alike.
-/

import SecondaryIndex.Proofs.Decimal.Spelling
import SecondaryIndex.Proofs.Decimal.Widening
import SecondaryIndex.Proofs.Query.Evaluation

namespace SecondaryIndex

/-! ## Part 1 — the two spellings of a number -/

namespace Decimal

/-- The number of a query and the number of an entry are spelled alike: it has a fraction, it is not
less than `0.00001`, and the shortest decimals are one. -/
def SpelledAlike : Decoded → Decoded → Prop
  | .finite _ significand exponent narrowBelow, .finite _ wide wideExponent wideNarrow =>
    ¬ Whole significand exponent ∧
      shortest .up significand exponent narrowBelow =
        shortest .toEven wide wideExponent wideNarrow ∧
      1 / 100000 ≤ (shortest .up significand exponent narrowBelow).value
  | _, _ => False

/-- A number is whole whatever its width. -/
theorem whole_iff_exists {significand : Nat} {exponent : Int} :
    Whole significand exponent ↔ ∃ number : Nat, magnitude significand exponent = number := by
  constructor
  · exact Whole.exists_eq
  · rintro ⟨number, numberEq⟩
    have unitPos : (0 : ℚ) < 2 ^ exponent := by positivity
    exact @Whole.of_near _ number _ (by rw [numberEq]; linarith) (by rw [numberEq]; linarith)

theorem magnitude_eq_zero_iff {significand : Nat} {exponent : Int} :
    magnitude significand exponent = 0 ↔ significand = 0 := by
  have unit : (2 : ℚ) ^ exponent ≠ 0 := by positivity
  rw [magnitude, mul_eq_zero, or_iff_left unit, Nat.cast_eq_zero]

section Texts

variable {significand wide : Nat} {exponent wideExponent : Int} {narrowBelow wideNarrow : Bool}

/-- One number other than zero, as a query and as JSON spell it. -/
theorem decimal_shortest_eq_iff (proper : Proper significand narrowBelow)
    (wideProper : Proper wide wideNarrow)
    (same : magnitude significand exponent = magnitude wide wideExponent) :
    IndexValue.numberLayout.decimal (shortest .up significand exponent narrowBelow) =
        Json.numberLayout.decimal (shortest .toEven wide wideExponent wideNarrow) ↔
      ¬ Whole significand exponent ∧
        shortest .up significand exponent narrowBelow =
          shortest .toEven wide wideExponent wideNarrow ∧
        1 / 100000 ≤ (shortest .up significand exponent narrowBelow).value := by
  have whole : Whole significand exponent ↔ Whole wide wideExponent := by
    rw [whole_iff_exists, whole_iff_exists, same]
  have natural := shortest_exponent_nonneg_iff proper .up exponent
  have wideNatural := shortest_exponent_nonneg_iff wideProper .toEven wideExponent
  have begins := ShortDecimal.value_lt_iff (shortest_digits_pos proper .up exponent)
  have texts := @Layout.decimal_eq_iff (shortest .up significand exponent narrowBelow)
    (shortest .toEven wide wideExponent wideNarrow) IndexValue.numberLayout Json.numberLayout
    (-4) 16 rfl rfl rfl (by decide) (natural.trans (whole.trans wideNatural.symm))
  have noLess : 1 / 100000 ≤ (shortest .up significand exponent narrowBelow).value ↔
      -4 ≤ (shortest .up significand exponent narrowBelow).point := by
    rw [show (1 / 100000 : ℚ) = 10 ^ (-5 : Int) by norm_num, ← not_lt, begins]
    omega
  rw [texts, noLess]
  constructor
  · rintro ⟨sameDecimal, fraction, least, -⟩
    rw [← sameDecimal] at fraction least
    exact ⟨mt natural.mpr (not_le.mpr fraction), sameDecimal, least⟩
  · rintro ⟨fraction, sameDecimal, least⟩
    have short := (begins 16).mp (shortest_value_lt proper .up fraction)
    rw [← sameDecimal]
    exact ⟨rfl, not_le.mp (mt natural.mp fraction), least, short⟩

/-- **A number has one text** on both sides exactly if it is spelled alike. -/
theorem decoded_eq_iff {format : BinaryFormat} (size : format.fractionBits ≤ 52)
    {bits wideBits : Nat} (same : SameNumber (format.decode bits) (binary64.decode wideBits)) :
    IndexValue.numberLayout.decoded (format.decode bits) =
        Json.numberLayout.decoded (binary64.decode wideBits) ↔
      SpelledAlike (format.decode bits) (binary64.decode wideBits) := by
  obtain ⟨negative, significand, exponent, narrowBelow, wide, wideExponent, wideNarrow, parts,
    wideParts, magnitudeEq⟩ := same.exists_parts
  rw [parts, wideParts, Layout.decoded, Layout.decoded, String.append_right_inj, SpelledAlike]
  have zero : significand = 0 ↔ wide = 0 := by
    rw [← @magnitude_eq_zero_iff significand exponent, magnitudeEq, magnitude_eq_zero_iff]
  by_cases none : significand = 0
  · rw [if_pos none, if_pos (zero.mp none)]
    refine iff_of_false (by decide) fun alike => alike.1 ?_
    rw [none]
    exact dvd_zero _
  · rw [if_neg none, if_neg (mt zero.mpr none)]
    exact decimal_shortest_eq_iff (proper_of_decode size parts none)
      (proper_of_decode le_rfl wideParts (mt zero.mpr none)) magnitudeEq

end Texts

end Decimal

/-! ## Part 2 — the two spellings of a scalar -/

namespace Scalar

/-- The JSON form of a scalar that has one. A single is written as the double that it is. -/
inductive Serializes : Scalar → Json → Prop
  | text (value : String) : Serializes (.text value) (.text value)
  | boolean (value : Bool) : Serializes (.boolean value) (.boolean value)
  | character (value : Char) : Serializes (.character value) (.text (String.singleton value))
  | integer (value : Int) (fits : -0x8000000000000000 ≤ value ∧ value < 0x10000000000000000) :
    Serializes (.integer value) (.number (.integer value fits))
  | single (value : Float32) (wide : Float)
    (same : Decimal.SameNumber (.ofFloat32 value) (.ofFloat wide)) :
    Serializes (.single value) (.number (.double wide))
  | double (value : Float) (finite : (Decimal.Decoded.ofFloat value).IsFinite) :
    Serializes (.double value) (.number (.double value))

/-- A scalar is spelled alike on both sides; only numbers with a binary point may not be. -/
def SpelledAlike : Scalar → Json → Prop
  | .single value, .number (.double wide) =>
    Decimal.SpelledAlike (.ofFloat32 value) (.ofFloat wide)
  | .double value, .number (.double wide) =>
    Decimal.SpelledAlike (.ofFloat value) (.ofFloat wide)
  | _, _ => True

/-- The scalars that a JSON scalar can hold: no raw bytes, integers of 64 bits, finite numbers. -/
def Writable : Scalar → Prop
  | .raw _ => False
  | .integer value => -0x8000000000000000 ≤ value ∧ value < 0x10000000000000000
  | .single value => (Decimal.Decoded.ofFloat32 value).IsFinite
  | .double value => (Decimal.Decoded.ofFloat value).IsFinite
  | _ => True

/-- Just these scalars have a JSON form. -/
theorem exists_serializes_iff {scalar : Scalar} :
    (∃ form, scalar.Serializes form) ↔ scalar.Writable := by
  constructor
  · rintro ⟨form, serializes⟩
    cases serializes with
    | text value => trivial
    | boolean value => trivial
    | character value => trivial
    | integer value fits => exact fits
    | single value wide same =>
      obtain ⟨negative, significand, exponent, narrowBelow, _, _, _, parts, -⟩ := same.exists_parts
      rw [Writable, parts]
      trivial
    | double value finite => exact finite
  · intro writable
    cases scalar with
    | text value => exact ⟨_, .text value⟩
    | raw value => exact writable.elim
    | boolean value => exact ⟨_, .boolean value⟩
    | character value => exact ⟨_, .character value⟩
    | integer value => exact ⟨_, .integer value writable⟩
    | single value =>
      obtain ⟨wide, same⟩ := Decimal.exists_double_of_finite writable
      exact ⟨_, .single value wide same⟩
    | double value => exact ⟨_, .double value writable⟩

/-- **The two spellings of a scalar** agree exactly if it is spelled alike. -/
theorem Serializes.ofJson?_eq_ofScalar_iff {scalar : Scalar} {form : Json}
    (serializes : scalar.Serializes form) :
    ∃ stored, IndexValue.ofJson? form = some stored ∧
      (stored = .ofScalar scalar ↔ scalar.SpelledAlike form) := by
  have inj : ∀ first second : String,
      IndexValue.ofString first = .ofString second ↔ first = second := by
    intro first second
    rw [IndexValue.ofString, IndexValue.ofString, IndexValue.mk.injEq, Bytes.ofString_inj]
  cases serializes with
  | text value => exact ⟨_, rfl, iff_of_true rfl trivial⟩
  | boolean value => exact ⟨_, rfl, iff_of_true rfl trivial⟩
  | character value => exact ⟨_, rfl, iff_of_true rfl trivial⟩
  | integer value fits => exact ⟨_, rfl, iff_of_true rfl trivial⟩
  | single value wide same =>
    exact ⟨_, rfl, ((inj _ _).trans eq_comm).trans (Decimal.decoded_eq_iff (by decide) same)⟩
  | double value finite =>
    exact ⟨_, rfl, ((inj _ _).trans eq_comm).trans
      (Decimal.decoded_eq_iff (by decide) (Decimal.SameNumber.refl finite))⟩

end Scalar

/-! ## Part 3 — entries and queries -/

/-- A scalar at an indexed path has one entry there. -/
theorem mem_indexEntries_iff {schema : Schema} {value form : Json} {path : String}
    {stored : IndexValue} (declared : ⟨path, .indexed⟩ ∈ schema.properties)
    (found : value.lookup path = some form) (text : IndexValue.ofJson? form = some stored)
    {entry : IndexEntry} :
    entry ∈ indexEntries schema value ∧ entry.path = path ↔ entry = ⟨path, stored⟩ := by
  have values : indexedValues path value = [stored] := by
    rw [indexedValues, found]
    cases form with
    | array items => cases text
    | null => cases text
    | object members => cases text
    | boolean value => exact congrArg Option.toList text
    | number value => exact congrArg Option.toList text
    | text value => exact congrArg Option.toList text
  constructor
  · rintro ⟨listed, rfl⟩
    obtain ⟨property, _, entries⟩ := List.mem_flatMap.mp listed
    obtain ⟨held, carried, rfl⟩ := List.mem_map.mp entries
    rw [values, List.mem_singleton] at carried
    rw [carried]
  · rintro rfl
    have indexed : ⟨path, .indexed⟩ ∈ schema.indexed :=
      List.mem_filter.mpr ⟨declared, decide_eq_true rfl⟩
    refine ⟨List.mem_flatMap.mpr ⟨_, indexed, List.mem_map.mpr ⟨stored, ?_, rfl⟩⟩, rfl⟩
    rw [values]
    exact List.mem_singleton_self stored

/-- A lone predicate on an indexed path is looked up in one index set. -/
theorem Catalogue.plan_lone {catalogue : Catalogue} {path : String}
    (declared : catalogue.schema.resolve path = .ok ⟨path, .indexed⟩) (keyspace : Keyspace)
    (value : IndexValue) :
    catalogue.plan keyspace (Criteria.empty.withAll ⟨path, [value]⟩) =
      .ok ⟨⟨[], [keyspace.indexKey path value.bytes]⟩, ⟨[], []⟩, none⟩ := by
  have lone : (Criteria.empty.withAll ⟨path, [value]⟩).all.toList = [⟨path, [value]⟩] := rfl
  have selected : Selection.of catalogue.identify catalogue.schema [⟨path, [value]⟩] =
      .ok ⟨[], [⟨path, [value]⟩]⟩ := by
    rw [Selection.of, declared]
    rfl
  rw [Catalogue.plan, Plan.resolve, lone, Plan.resolveAll, Plan.select, selected]
  rfl

/-- A query for a value of an indexed path names the entity that has just been written with it. -/
theorem mem_named_put {catalogue : Catalogue} {path : String} {value : IndexValue} {write : Write}
    (declared : catalogue.schema.resolve path = .ok ⟨path, .indexed⟩)
    (entered : ⟨path, value⟩ ∈ write.indexes) (store : Store) :
    ∃ ids, catalogue.named write.keyspace (Criteria.empty.withAll ⟨path, [value]⟩)
        (store.put write) = .ok ids ∧ write.id ∈ ids := by
  have key : write.keyspace.indexKey path value.bytes ∈ write.indexKeys :=
    List.mem_map.mpr ⟨⟨path, value⟩, entered, rfl⟩
  have member : write.id ∈
      (store.put write).members (write.keyspace.indexKey path value.bytes) :=
    Store.mem_members_put.mpr (.inl ⟨rfl, .inr key⟩)
  have some : (Criteria.empty.withAll ⟨path, [value]⟩).isEmpty = false := rfl
  rw [Catalogue.named, some, if_neg Bool.false_ne_true, Catalogue.plan_lone declared]
  refine ⟨_, rfl, ?_⟩
  rw [Plan.found, ← InsertionSet.mem_def, InsertionSet.mem_ofList, List.mem_append,
    List.mem_append, List.mem_append, mem_commonIds]
  refine .inl (.inl (.inl ⟨List.cons_ne_nil _ _, fun other listed => ?_⟩))
  rw [List.mem_singleton.mp listed]
  exact member

/-- **The entry of a scalar is what a query for the scalar asks for** exactly if the scalar is
spelled alike on both sides, and then the query names the entity. -/
theorem entry_is_queried_text_iff {catalogue : Catalogue} {entity : Entity} {value form : Json}
    {write : Write} {path : String} {scalar : Scalar}
    (declared : catalogue.schema.resolve path = .ok ⟨path, .indexed⟩)
    (formed : entity.form = .ok value) (written : entity.write catalogue.schema = .ok write)
    (found : value.lookup path = some form) (serializes : scalar.Serializes form) :
    ∃ stored,
      (∀ entry, entry ∈ write.indexes ∧ entry.path = path ↔ entry = ⟨path, stored⟩) ∧
      (stored = .ofScalar scalar ↔ scalar.SpelledAlike form) ∧
      (scalar.SpelledAlike form → ∀ store : Store, ∃ ids,
        catalogue.named write.keyspace (Criteria.empty.withAll ⟨path, [.ofScalar scalar]⟩)
            (store.put write) = .ok ids ∧ write.id ∈ ids) := by
  obtain ⟨stored, text, alike⟩ := serializes.ofJson?_eq_ofScalar_iff
  obtain ⟨content, positions, same, -, -, writeEq⟩ := Entity.of_write written
  obtain rfl : value = content := Except.ok.inj (formed.symm.trans same)
  have entries : write.indexes = indexEntries catalogue.schema value := by rw [writeEq]
  have lone : ∀ entry, entry ∈ write.indexes ∧ entry.path = path ↔ entry = ⟨path, stored⟩ := by
    intro entry
    rw [entries]
    exact mem_indexEntries_iff (Schema.resolve_eq_ok declared).1 found text
  refine ⟨stored, lone, alike, fun spelled store => ?_⟩
  rw [← alike.mpr spelled]
  exact mem_named_put declared ((lone _).mpr rfl).1 store

/-- Towns, which are looked for by their size. -/
def sizedTown : EntityType where
  schema := (Schema.empty "Town" ⟨"towns"⟩).declareAll [(.identifier, "id"), (.indexed, "size")]
  shape := .record "Town" [("id", .text), ("size", .double)] []

/-- A town of some size. -/
def townOfSize (size : Float) : Entity where
  form := .ok (.object [("id", .text "tear"), ("size", .number (.double size))])
  id := .ofString "tear"

/-- Two and a half is spelled alike. -/
theorem spelledAlike_two_and_a_half :
    Decimal.SpelledAlike (.ofFloat 2.5) (.ofFloat 2.5) := by
  have parts : Decimal.Decoded.ofFloat 2.5 =
      .finite false (5 * Nat.pow 2 50) (-51) false := by decide
  have up : Decimal.shortest .up (5 * Nat.pow 2 50) (-51) false = ⟨25, -1⟩ := by decide +kernel
  have even : Decimal.shortest .toEven (5 * Nat.pow 2 50) (-51) false = ⟨25, -1⟩ := by
    decide +kernel
  rw [parts, Decimal.SpelledAlike, up, even, Decimal.ShortDecimal.value]
  refine ⟨?_, rfl, by norm_num⟩
  rw [Decimal.Whole]
  decide

theorem entry_is_queried_text_iff_two_and_a_half :
    ∃ write stored, (townOfSize 2.5).write sizedTown.schema = .ok write ∧
      (∀ entry, entry ∈ write.indexes ∧ entry.path = "size" ↔ entry = ⟨"size", stored⟩) ∧
      (stored = .ofScalar (.double 2.5) ↔
        (Scalar.double 2.5).SpelledAlike (.number (.double 2.5))) ∧
      (Scalar.double 2.5).SpelledAlike (.number (.double 2.5)) ∧
      ∀ store : Store, ∃ ids, sizedTown.catalogue.named write.keyspace
          (Criteria.empty.withAll ⟨"size", [.ofScalar (.double 2.5)]⟩) (store.put write) = .ok ids ∧
        write.id ∈ ids := by
  obtain ⟨stored, lone, alike, named⟩ := @entry_is_queried_text_iff sizedTown.catalogue
    (townOfSize 2.5) _ (.number (.double 2.5)) _ "size" (.double 2.5) rfl rfl rfl
    (by decide +kernel) (.double 2.5 trivial)
  exact ⟨_, stored, rfl, lone, alike, spelledAlike_two_and_a_half,
    named spelledAlike_two_and_a_half⟩

/-- **A whole double is not spelled alike**: it has a point in its entry and none in a query, so a
query for the size of a town does not find the town. -/
theorem whole_size_is_not_found :
    (Scalar.double 1.0).Serializes (.number (.double 1.0)) ∧
      (∃ write, (townOfSize 1.0).write sizedTown.schema = .ok write ∧
        write.indexes = [⟨"size", .ofString "1.0"⟩]) ∧
      IndexValue.ofScalar (.double 1.0) = .ofString "1" ∧
      IndexValue.ofString "1.0" ≠ .ofString "1" ∧
      (((Session.inProcess "memory").performAll sizedTown [.insert (townOfSize 1.0)]).hold
        (sizedTown.catalogue.find (Criteria.empty.withAll ⟨"size", [.ofScalar (.double 1.0)]⟩)
          none .whole)).1 = .ok [] := by
  refine ⟨.double 1.0 trivial, ⟨_, rfl, by decide +kernel⟩, by decide +kernel, by decide, ?_⟩
  decide +kernel

end SecondaryIndex
