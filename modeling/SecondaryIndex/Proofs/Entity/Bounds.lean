/-
**Which fields are refused when a value is rebuilt.**

No index may reach the number of fields, on the ground that an array spends a field on each of its
items. An item that vanishes spends none, so behind enough of them an index outruns the fields:

* `place_eq_none_iff` — a leaf is refused exactly if an index on its way reaches the bound;
* `Json.Outruns` — a leaf of the value is behind an index that reaches the number of all leaves, and
  `Legible.not_outruns` — none is if no item vanishes;
* `exists_leaf_of_refused` and `exists_refused` — of the fields in their order the first such one is
  refused;
* `refused_iff_outruns` — so what is written is refused exactly if it outruns its leaves.
-/

import SecondaryIndex.Proofs.Entity.RoundTrip
import SecondaryIndex.Proofs.Query.Actions

namespace SecondaryIndex

open Json

/-! ## Part 1 — indexes that are too high -/

namespace Json

/-- An index on the way reaches the bound. -/
def TooHigh (bound : Nat) (steps : List Step) : Prop :=
  ∃ position, .index position ∈ steps ∧ bound ≤ position

/-- A leaf of the value is behind an index that reaches the number of its leaves. -/
def Outruns (value : Json) : Prop :=
  ∃ spot ∈ value.spots, TooHigh value.spots.length spot.1

variable {bound position : Nat} {leaf target placed value : Json} {steps : List Step}

theorem lt_of_place (done : place bound leaf steps target = some placed)
    (taken : .index position ∈ steps) : position < bound := by
  induction steps generalizing target placed with
  | nil => exact (List.not_mem_nil taken).elim
  | cons step steps ih =>
    cases step with
    | key name =>
      obtain ⟨slot, filled, _⟩ := place_key.mp done
      exact ih filled ((List.mem_cons.mp taken).resolve_left Step.noConfusion)
    | index first =>
      obtain ⟨low, slot, filled, _⟩ := place_index.mp done
      rcases List.mem_cons.mp taken with same | later
      · cases same
        exact low
      · exact ih filled later

/-- **A leaf is refused** exactly if an index on its way is too high, whatever is in place. -/
theorem place_eq_none_iff : place bound leaf steps target = none ↔ TooHigh bound steps := by
  constructor
  · intro refused
    by_contra low
    obtain ⟨placed, done⟩ : ∃ placed, place bound leaf steps target = some placed :=
      exists_place target fun position taken =>
        Nat.lt_of_not_le fun high => low ⟨position, taken, high⟩
    cases refused.symm.trans done
  · rintro ⟨position, taken, high⟩
    cases done : place bound leaf steps target with
    | none => rfl
    | some placed => exact absurd (lt_of_place done taken) (Nat.not_lt.mpr high)

/-- If no item vanishes, each item before a leaf has a leaf of its own. -/
theorem Legible.not_outruns (legible : value.Legible) : ¬ value.Outruns := by
  rintro ⟨spot, listed, position, taken, high⟩
  exact Nat.not_lt.mpr high (legible.lt_length_spots listed taken)

end Json

/-! ## Part 2 — fields in their order -/

section Fields

variable {bound : Nat} {target : Json} {todo : List (String × Json)} {field : Bytes}

/-- The text of each leaf is JSON. -/
def Parses (value : Json) : Prop :=
  ∀ spot ∈ value.spots, ∃ held, Json.read (Bytes.ofString spot.2.render) = .ok held

/-- The field that is refused is that of a leaf behind an index that is too high. -/
theorem exists_leaf_of_refused
    (refused : (todo.map storedLeaf).foldlM
      (fun value field => placeField bound value field.1 field.2) target =
        .error (.invalidField field)) :
    ∃ leaf ∈ todo, Bytes.ofString leaf.1 = field ∧ TooHigh bound (steps leaf.1) := by
  induction todo generalizing target with
  | nil => cases refused
  | cons leaf todo ih =>
    rw [List.map_cons, List.foldlM_cons, placeField_storedLeaf] at refused
    cases parsed : Json.read (Bytes.ofString leaf.2.render) with
    | error error =>
      rw [parsed] at refused
      cases refused
    | ok held =>
      rw [parsed] at refused
      dsimp only at refused
      cases placed : Json.place bound held (steps leaf.1) target with
      | none =>
        rw [placed] at refused
        cases refused
        exact ⟨leaf, List.mem_cons_self, rfl, place_eq_none_iff.mp placed⟩
      | some after =>
        rw [placed] at refused
        obtain ⟨later, listed, high⟩ := ih refused
        exact ⟨later, List.mem_cons_of_mem _ listed, high⟩

/-- If all texts are JSON and some index is too high, then a field is refused. -/
theorem exists_refused
    (parses : ∀ leaf ∈ todo, ∃ held, Json.read (Bytes.ofString leaf.2.render) = .ok held)
    (high : ∃ leaf ∈ todo, TooHigh bound (steps leaf.1)) :
    ∃ field, (todo.map storedLeaf).foldlM
      (fun value field => placeField bound value field.1 field.2) target =
        .error (.invalidField field) := by
  induction todo generalizing target with
  | nil =>
    obtain ⟨leaf, listed, _⟩ := high
    exact (List.not_mem_nil listed).elim
  | cons leaf todo ih =>
    rw [List.forall_mem_cons] at parses
    obtain ⟨held, parsed⟩ := parses.1
    rw [List.map_cons, List.foldlM_cons, placeField_storedLeaf, parsed]
    dsimp only
    cases placed : Json.place bound held (steps leaf.1) target with
    | none => exact ⟨Bytes.ofString leaf.1, rfl⟩
    | some after =>
      -- this leaf was not refused, so the one behind too high an index is still to come
      have low : ¬ TooHigh bound (steps leaf.1) := fun first => by
        cases placed.symm.trans (place_eq_none_iff.mpr first)
      rw [List.exists_mem_cons_iff, or_iff_right low] at high
      exact ih parses.2 high

end Fields

/-! ## Part 3 — whole entities -/

section Entities

variable {type : EntityType} {entity : Entity} {write : Write} {value : Json}
  {members : List (String × Json)}

/-- No way to the id, if one is declared, goes through an array. -/
def Unindexed (schema : Schema) : Prop :=
  ∀ property, schema.idProperty? = some property → ∀ position,
    .index position ∉ steps property.path

/-- An id outside of arrays is never refused. -/
theorem exists_attached (unindexed : Unindexed type.schema) (record : Record) (value : Json) :
    ∃ attached, attachId type.schema record value = .ok attached := by
  rw [attachId]
  cases declared : type.schema.idProperty? with
  | none => exact ⟨value, rfl⟩
  | some property =>
    dsimp only
    split
    · exact ⟨value, rfl⟩
    · have low : ∀ position, .index position ∈ steps property.path →
          position < record.fields.size := fun position taken =>
        (unindexed property declared position taken).elim
      obtain ⟨placed, done⟩ : ∃ placed, Json.place record.fields.size (idValue record.id)
          (steps property.path) value = some placed := exists_place value low
      rw [done]
      exact ⟨placed, rfl⟩

theorem read_of_attached {record : Record} {attached : Json}
    (rebuilt : rebuild record.fields = .ok value)
    (done : attachId type.schema record value = .ok attached) :
    type.read record = (type.shape.read attached).mapError .deserialize := by
  rw [EntityType.read, rebuilt]
  show (attachId type.schema record value >>= fun value =>
    (type.shape.read value).mapError ConversionError.deserialize) = _
  rw [done]
  rfl

/-- Before an entity is read from the value that its fields describe, only they can be refused. -/
theorem read_eq_error_iff (unindexed : Unindexed type.schema) {record : Record}
    {error : ConversionError} (early : ∀ reason, error ≠ .deserialize reason) :
    type.read record = .error error ↔ rebuild record.fields = .error error := by
  cases rebuilt : rebuild record.fields with
  | error reason =>
    rw [EntityType.read, rebuilt]
    exact Iff.rfl
  | ok value =>
    obtain ⟨attached, done⟩ := exists_attached unindexed record value
    constructor
    · intro refused
      rw [read_of_attached rebuilt done] at refused
      cases shaped : type.shape.read attached with
      | error reason =>
        rw [shaped] at refused
        exact (early reason (Except.error.inj refused).symm).elim
      | ok entity =>
        rw [shaped] at refused
        cases refused
    · rintro ⟨⟩

/-- Only the fields can be refused. -/
theorem read_eq_invalidField_iff (unindexed : Unindexed type.schema) {record : Record}
    {field : Bytes} :
    type.read record = .error (.invalidField field) ↔
      rebuild record.fields = .error (.invalidField field) :=
  read_eq_error_iff unindexed nofun

/-- A field of an object stands for one of its spots. -/
theorem located_mem_spots (addressable : (object members).Addressable) {leaf : String × Json}
    (listed : leaf ∈ leaves "" (object members)) : located leaf ∈ (object members).spots := by
  have filled : members ≠ [] := by
    rintro rfl
    exact List.not_mem_nil listed
  rw [← map_located_leaves_object addressable filled]
  exact List.mem_map_of_mem listed

/-- The leaves behind too high an index are those of the spots behind one. -/
theorem outruns_iff (addressable : (object members).Addressable) {todo : List (String × Json)}
    (order : todo.Perm (leaves "" (object members))) :
    (object members).Outruns ↔ ∃ leaf ∈ todo, TooHigh todo.length (steps leaf.1) := by
  by_cases filled : members = []
  · subst filled
    have none : todo = [] := order.eq_nil
    rw [none]
    refine iff_of_false ?_ (by simp)
    rintro ⟨spot, listed, position, taken, _⟩
    rw [List.mem_singleton.mp listed] at taken
    exact List.not_mem_nil taken
  · have spots := map_located_leaves_object addressable filled
    rw [Outruns, ← spots, List.length_map, ← order.length_eq]
    simp only [List.mem_map, located, ← order.mem_iff]
    grind

/-- **What is refused of what was written.** An entity with addressable leaves is read back without
an invalid field, unless one of them is behind an index that reaches their number; and then a field
is refused, if all of their texts are JSON. -/
theorem refused_iff_outruns (form : entity.form = .ok value) (addressable : value.Addressable)
    (written : entity.write type.schema = .ok write) (unindexed : Unindexed type.schema) :
    ((∃ field, type.read write.record = .error (.invalidField field)) → value.Outruns) ∧
      (Parses value → value.Outruns →
        ∃ field, type.read write.record = .error (.invalidField field)) := by
  obtain ⟨held, positions, formed, object, -, rfl⟩ := Entity.of_write written
  cases form.symm.trans formed
  obtain ⟨members, rfl⟩ : ∃ members, value = .object members := by
    cases value with
    | object members => exact ⟨members, rfl⟩
    | _ => cases object
  obtain ⟨todo, order, fields⟩ := exists_perm_leaves addressable
  have size : (flatten (.object members)).size = todo.length := by
    rw [size_flatten addressable, order.length_eq]
  simp only [read_eq_invalidField_iff unindexed, rebuild, fields, size,
    outruns_iff addressable order]
  constructor
  · rintro ⟨field, refused⟩
    obtain ⟨leaf, listed, _, high⟩ := exists_leaf_of_refused refused
    exact ⟨leaf, listed, high⟩
  · intro parses high
    exact exists_refused
      (fun leaf listed => parses _ (located_mem_spots addressable (order.mem_iff.mp listed))) high

end Entities

/-- Towns with tags. -/
def taggedTown : EntityType where
  schema := (Schema.empty "Town" ⟨"towns"⟩).declareAll [(.identifier, "id"), (.indexed, "tags")]
  shape := .any

/-- A town that has lost two of its tags. -/
def tear : Json :=
  .object [("id", .text "tear"), ("tags", .array [.null, .null, .text "port"])]

theorem unindexed_taggedTown : Unindexed taggedTown.schema := by
  intro property declared position
  have known : taggedTown.schema.idProperty? = some ⟨"id", .identifier⟩ := by decide
  cases known.symm.trans declared
  have direct : Json.steps "id" = [.key "id"] := by decide +kernel
  rw [direct]
  simp

theorem refused_iff_outruns_tear :
    tear.Addressable ∧ Unindexed taggedTown.schema ∧ Parses tear ∧ tear.Outruns ∧
      ∃ write, (⟨.ok tear, .ofString "tear"⟩ : Entity).write taggedTown.schema = .ok write ∧
        ((∃ field, taggedTown.read write.record = .error (.invalidField field)) → tear.Outruns) ∧
          (Parses tear → tear.Outruns →
            ∃ field, taggedTown.read write.record = .error (.invalidField field)) := by
  have addressable : tear.Addressable := by decide
  have parses : Parses tear := by
    have isOk : ∀ spot ∈ tear.spots, (Json.read (Bytes.ofString spot.2.render)).isOk := by
      decide +kernel
    exact fun spot listed => exists_of_isOk (isOk spot listed)
  have outruns : tear.Outruns :=
    ⟨([.key "tags", .index 2], .text "port"), by decide +kernel, 2, by decide, by decide +kernel⟩
  have written : (⟨.ok tear, .ofString "tear"⟩ : Entity).write taggedTown.schema = .ok
      ⟨⟨Bytes.ofString "tear", ⟨"towns"⟩, flatten tear⟩, indexEntries taggedTown.schema tear, []⟩ :=
    rfl
  exact ⟨addressable, unindexed_taggedTown, parses, outruns, _, written,
    refused_iff_outruns rfl addressable written unindexed_taggedTown⟩

/-- **A town that was written is not read back.** It has two fields, for its id and for its third
tag, and the index of that tag is two. -/
theorem invalidField_tear :
    tear.Addressable ∧ Unindexed taggedTown.schema ∧
      ∃ write, (⟨.ok tear, .ofString "tear"⟩ : Entity).write taggedTown.schema = .ok write ∧
        taggedTown.read write.record = .error (.invalidField (Bytes.ofString "tags.[2]")) :=
  ⟨by decide, unindexed_taggedTown, _, rfl, by decide +kernel⟩

end SecondaryIndex
