/-
**Which keys of a keyspace can be equal.**

Every key but the registry's is the name of its keyspace, a colon and a rest, so two keys of one
keyspace are compared by their rests. A path without a colon ends at the first colon of the rest;
nothing of the kind holds for ids and values, which may be any bytes.

* `separator_notMem_ofString` — a text without a colon has no separator among its bytes;
* `entityKey_inj`, `helperKey_inj`, `indexKey_inj` and `geoKey_inj` — inside one role a key tells
  what it was made of;
* `registryKey_ne_keyStart_append` — the registry shares its key with no other role;
* `helperKey_eq_indexKey_iff` — the set of index keys of an id is at the key of an index set exactly
  if the id, continued by `:idx`, spells the path, a colon and the value;
* `keyStart_append_inj` and `registryKey_ne_keyStart` — keyspaces whose names have no colon share
  no key;
* `key_layout` — so inside a role a key tells everything that it was made of.
-/

import SecondaryIndex.Keyspace

namespace SecondaryIndex

/-- A text without a colon. -/
def ColonFree (text : String) : Prop :=
  ':' ∉ text.toList

instance (text : String) : Decidable (ColonFree text) :=
  inferInstanceAs (Decidable (':' ∉ text.toList))

/-! ## Part 1 — the colon among bytes -/

namespace Bytes

/-- The bytes of a text are the bytes of its characters. -/
theorem ofString_eq_flatMap (text : String) :
    ofString text = text.toList.flatMap String.utf8EncodeChar := by
  rw [ofString, ← String.utf8Encode_toList, List.utf8Encode]
  simp

/-- Of all characters only the colon has the separator among its bytes. -/
theorem eq_colon_of_separator_mem {char : Char}
    (member : separator ∈ String.utf8EncodeChar char) : char = ':' := by
  have wide : separator.toNat = 58 := rfl
  have value : char.val.toNat = 58 := by
    unfold String.utf8EncodeChar at member
    dsimp only at member
    -- only the one-byte form has a byte below `0x80`
    split at member
    · rw [List.mem_singleton, ← UInt8.toNat_inj, UInt8.toNat_ofNat'] at member
      omega
    · exfalso
      repeat' split at member
      all_goals
        simp only [List.mem_cons, List.not_mem_nil, or_false, ← UInt8.toNat_inj,
          UInt8.toNat_ofNat', wide] at member
        omega
  exact Char.ext (UInt32.toNat_inj.mp value)

/-- A text without a colon has no separator among its bytes. -/
theorem separator_notMem_ofString {text : String} (free : ColonFree text) :
    separator ∉ ofString text := by
  rw [ofString_eq_flatMap, List.mem_flatMap]
  rintro ⟨char, listed, member⟩
  exact free (eq_colon_of_separator_mem member ▸ listed)

/-- Where neither beginning has a separator, both sides split at their first one. -/
theorem append_separator_inj {first second tail rest : Bytes} (firstFree : separator ∉ first)
    (secondFree : separator ∉ second) :
    first ++ separator :: tail = second ++ separator :: rest ↔ first = second ∧ tail = rest := by
  induction first generalizing second with
  | nil =>
    cases second with
    | nil => simp
    | cons byte second =>
      have different : separator ≠ byte := fun same => secondFree (same ▸ List.mem_cons_self)
      simp [different]
  | cons head first ih =>
    cases second with
    | nil =>
      have different : head ≠ separator := fun same => firstFree (same ▸ List.mem_cons_self)
      simp [different]
    | cons byte second =>
      rw [List.mem_cons, not_or] at firstFree secondFree
      rw [List.cons_append, List.cons_append, List.cons.injEq, ih firstFree.2 secondFree.2,
        List.cons.injEq, and_assoc]

end Bytes

/-! ## Part 2 — the name of the positions of a path -/

/-- A colon as a dot. -/
def colonAsDot (char : Char) : Char :=
  if char = ':' then '.' else char

theorem map_colonAsDot_of_colonFree {text : List Char} (free : ':' ∉ text) :
    text.map colonAsDot = text := by
  induction text with
  | nil => rfl
  | cons char rest ih =>
    rw [List.mem_cons, not_or] at free
    rw [List.map_cons, ih free.2, colonAsDot, if_neg (Ne.symm free.1)]

/-- The last dot comes back from the colon it became. -/
theorem map_colonAsDot_lastDotAsColon {text : List Char} (free : ':' ∉ text) :
    (lastDotAsColon text).map colonAsDot = text := by
  induction text with
  | nil => rfl
  | cons char rest ih =>
    rw [List.mem_cons, not_or] at free
    rw [lastDotAsColon]
    split
    · rename_i last
      rw [List.map_cons, map_colonAsDot_of_colonFree free.2, last.1]
      rfl
    · rw [List.map_cons, ih free.2, colonAsDot, if_neg (Ne.symm free.1)]

theorem geoIndexName_inj {first second : String} (firstFree : ColonFree first)
    (secondFree : ColonFree second) :
    geoIndexName first = geoIndexName second ↔ first = second := by
  constructor
  · intro equal
    have characters := congrArg (fun name => name.toList.map colonAsDot) equal
    simp only [geoIndexName, String.toList_ofList] at characters
    rw [map_colonAsDot_lastDotAsColon firstFree, map_colonAsDot_lastDotAsColon secondFree]
      at characters
    exact String.toList_inj.mp characters
  · rintro rfl
    rfl

/-! ## Part 3 — keys of one keyspace -/

namespace Keyspace

variable {keyspace : Keyspace} {id other value : Bytes} {path : String}

theorem keyStart_append (keyspace : Keyspace) (rest : Bytes) :
    keyspace.keyStart ++ rest = keyspace.registryKey ++ separator :: rest := by
  rw [keyStart, List.append_assoc, List.singleton_append]

/-- The registry shares its key with no other role. -/
theorem registryKey_ne_keyStart_append (keyspace : Keyspace) (rest : Bytes) :
    keyspace.registryKey ≠ keyspace.keyStart ++ rest := by
  intro equal
  have lengths := congrArg List.length equal
  rw [keyStart_append, List.length_append, List.length_cons] at lengths
  omega

@[simp] theorem helperKey_ne_registryKey (keyspace : Keyspace) (id : Bytes) :
    keyspace.helperKey id ≠ keyspace.registryKey :=
  (keyspace.registryKey_ne_keyStart_append _).symm

@[simp] theorem indexKey_ne_registryKey (keyspace : Keyspace) (path : String) (value : Bytes) :
    keyspace.indexKey path value ≠ keyspace.registryKey :=
  (keyspace.registryKey_ne_keyStart_append _).symm

@[simp] theorem entityKey_inj : keyspace.entityKey id = keyspace.entityKey other ↔ id = other := by
  rw [entityKey, entityKey, List.append_cancel_left_eq]

@[simp] theorem helperKey_inj : keyspace.helperKey id = keyspace.helperKey other ↔ id = other := by
  rw [helperKey, helperKey, List.append_cancel_left_eq, List.append_cancel_right_eq]

/-- The fields of an entity and its list are at different keys. -/
theorem entityKey_ne_helperKey (keyspace : Keyspace) (id : Bytes) :
    keyspace.entityKey id ≠ keyspace.helperKey id := by
  rw [entityKey, helperKey, Ne, List.append_cancel_left_eq, List.self_eq_append_right]
  decide

theorem indexKey_inj {otherPath : String} {otherValue : Bytes} (free : ColonFree path)
    (otherFree : ColonFree otherPath) :
    keyspace.indexKey path value = keyspace.indexKey otherPath otherValue ↔
      path = otherPath ∧ value = otherValue := by
  rw [indexKey, indexKey, List.append_cancel_left_eq, List.append_assoc, List.append_assoc,
    List.singleton_append, List.singleton_append,
    Bytes.append_separator_inj (Bytes.separator_notMem_ofString free)
      (Bytes.separator_notMem_ofString otherFree), Bytes.ofString_inj]

theorem geoKey_inj {otherPath : String} (free : ColonFree path) (otherFree : ColonFree otherPath) :
    keyspace.geoKey path = keyspace.geoKey otherPath ↔ path = otherPath := by
  rw [geoKey, geoKey, List.append_cancel_left_eq, Bytes.ofString_inj,
    geoIndexName_inj free otherFree]

/-- **The one way in which two roles meet.** -/
theorem helperKey_eq_indexKey_iff :
    keyspace.helperKey id = keyspace.indexKey path value ↔
      id ++ Bytes.ofString ":idx" = Bytes.ofString path ++ [separator] ++ value := by
  rw [helperKey, indexKey, List.append_cancel_left_eq]

/-! ## Part 4 — keys of different keyspaces -/

variable {first second : Keyspace}

@[simp] theorem registryKey_inj : first.registryKey = second.registryKey ↔ first = second := by
  rw [registryKey, registryKey, Bytes.ofString_inj, Keyspace.mk.injEq]

/-- Behind names without a colon, a key tells its keyspace. -/
theorem keyStart_append_inj {tail rest : Bytes} (firstFree : ColonFree first.name)
    (secondFree : ColonFree second.name) :
    first.keyStart ++ tail = second.keyStart ++ rest ↔ first = second ∧ tail = rest := by
  rw [keyStart_append, keyStart_append, ← registryKey_inj]
  exact Bytes.append_separator_inj (Bytes.separator_notMem_ofString firstFree)
    (Bytes.separator_notMem_ofString secondFree)

/-- A registry whose name has no colon is at no other key of any keyspace. -/
theorem registryKey_ne_keyStart (free : ColonFree first.name) (rest : Bytes) :
    first.registryKey ≠ second.keyStart ++ rest := by
  intro equal
  apply Bytes.separator_notMem_ofString free
  rw [show Bytes.ofString first.name = first.registryKey from rfl, equal, keyStart_append]
  simp

section Apart

variable (firstFree : ColonFree first.name) (secondFree : ColonFree second.name)

include firstFree secondFree

/-- Keys of two keyspaces are compared as if they were in one. -/
theorem keyStart_append_eq_iff {tail rest : Bytes} :
    first.keyStart ++ tail = second.keyStart ++ rest ↔
      first = second ∧ first.keyStart ++ tail = first.keyStart ++ rest := by
  rw [keyStart_append_inj firstFree secondFree, List.append_cancel_left_eq]

theorem entityKey_eq_iff :
    first.entityKey id = second.entityKey other ↔ first = second ∧ id = other := by
  show first.keyStart ++ _ = second.keyStart ++ _ ↔ _
  rw [keyStart_append_eq_iff firstFree secondFree]
  exact and_congr_right fun _ => entityKey_inj

theorem helperKey_eq_iff :
    first.helperKey id = second.helperKey other ↔ first = second ∧ id = other := by
  show first.keyStart ++ _ = second.keyStart ++ _ ↔ _
  rw [keyStart_append_eq_iff firstFree secondFree]
  exact and_congr_right fun _ => helperKey_inj

theorem indexKey_eq_iff {otherPath : String} {otherValue : Bytes} (free : ColonFree path)
    (otherFree : ColonFree otherPath) :
    first.indexKey path value = second.indexKey otherPath otherValue ↔
      first = second ∧ path = otherPath ∧ value = otherValue := by
  show first.keyStart ++ _ = second.keyStart ++ _ ↔ _
  rw [keyStart_append_eq_iff firstFree secondFree]
  exact and_congr_right fun _ => indexKey_inj free otherFree

theorem geoKey_eq_iff {otherPath : String} (free : ColonFree path)
    (otherFree : ColonFree otherPath) :
    first.geoKey path = second.geoKey otherPath ↔ first = second ∧ path = otherPath := by
  show first.keyStart ++ _ = second.keyStart ++ _ ↔ _
  rw [keyStart_append_eq_iff firstFree secondFree]
  exact and_congr_right fun _ => geoKey_inj free otherFree

end Apart

/-! ## Part 5 — what a key tells -/

/-- **A key tells what it was made of**, to whoever knows its role: behind a keyspace and a path
without a colon, ids and values may be any bytes. The registry is at no key of another role, and an
index set is where the index keys of an id are only if its path, a colon and its value spell the id
and the ending of that role. -/
theorem key_layout {otherPath : String} (firstFree : ColonFree first.name)
    (secondFree : ColonFree second.name) (pathFree : ColonFree path)
    (otherFree : ColonFree otherPath) :
    (∀ value otherValue : Bytes,
      first.indexKey path value = second.indexKey otherPath otherValue ↔
        first = second ∧ path = otherPath ∧ value = otherValue) ∧
    (∀ id other : Bytes,
      (first.entityKey id = second.entityKey other ↔ first = second ∧ id = other) ∧
      (first.helperKey id = second.helperKey other ↔ first = second ∧ id = other)) ∧
    (first.geoKey path = second.geoKey otherPath ↔ first = second ∧ path = otherPath) ∧
    (geoIndexName path = geoIndexName otherPath ↔ path = otherPath) ∧
    (∀ id value : Bytes,
      first.registryKey ≠ second.entityKey id ∧
      first.registryKey ≠ second.helperKey id ∧
      first.registryKey ≠ second.indexKey path value ∧
      first.registryKey ≠ second.geoKey path) ∧
    ∀ id value : Bytes,
      (first.indexKey path value = first.helperKey id ↔
        Bytes.ofString path ++ [separator] ++ value = id ++ Bytes.ofString ":idx") ∧
      (first.indexKey path value = second.helperKey id → first = second) := by
  refine ⟨fun value otherValue => indexKey_eq_iff firstFree secondFree pathFree otherFree,
    fun id other => ⟨entityKey_eq_iff firstFree secondFree, helperKey_eq_iff firstFree secondFree⟩,
    geoKey_eq_iff firstFree secondFree pathFree otherFree,
    geoIndexName_inj pathFree otherFree, fun id value => ?_, fun id value => ⟨?_, fun equal => ?_⟩⟩
  · have apart : ∀ rest, first.registryKey ≠ second.keyStart ++ rest :=
      registryKey_ne_keyStart firstFree
    exact ⟨apart _, apart _, apart _, apart _⟩
  · rw [eq_comm, helperKey_eq_indexKey_iff, eq_comm]
  · exact ((keyStart_append_inj firstFree secondFree).mp equal).1

/-- The persons in the town `idx` are listed where the index keys of the person `town` are. -/
theorem key_layout_towns :
    ColonFree "persons" ∧ ColonFree "lands" ∧ ColonFree "town" ∧ ColonFree "home.town.place" ∧
    Keyspace.indexKey ⟨"persons"⟩ "town" (Bytes.ofString "idx") =
      Keyspace.helperKey ⟨"persons"⟩ (Bytes.ofString "town") ∧
    Keyspace.indexKey ⟨"persons"⟩ "town" (Bytes.ofString "idx") ≠
      Keyspace.helperKey ⟨"lands"⟩ (Bytes.ofString "town") ∧
    Keyspace.indexKey ⟨"persons"⟩ "town" (Bytes.ofString "a:b") ≠
      Keyspace.indexKey ⟨"persons"⟩ "home.town.place" (Bytes.ofString "b") ∧
    Keyspace.geoKey ⟨"persons"⟩ "town" ≠ Keyspace.geoKey ⟨"persons"⟩ "home.town.place" ∧
    Keyspace.registryKey ⟨"persons"⟩ ≠ Keyspace.entityKey ⟨"lands"⟩ (Bytes.ofString "persons") := by
  have persons : ColonFree "persons" := by decide
  have lands : ColonFree "lands" := by decide
  have town : ColonFree "town" := by decide
  have place : ColonFree "home.town.place" := by decide
  obtain ⟨-, -, -, -, registry, lists⟩ :=
    @key_layout "town" ⟨"persons"⟩ ⟨"lands"⟩ "home.town.place" persons lands town place
  obtain ⟨index, -, geo, -⟩ :=
    @key_layout "town" ⟨"persons"⟩ ⟨"persons"⟩ "home.town.place" persons persons town place
  refine ⟨persons, lands, town, place, (lists _ _).1.mpr (by decide +kernel), fun equal => ?_,
    fun equal => ?_, fun equal => ?_, (registry (Bytes.ofString "persons") []).1⟩
  · exact absurd ((lists _ _).2 equal) (by decide)
  · exact absurd ((index _ _).mp equal).2.1 (by decide)
  · exact absurd (geo.mp equal).2 (by decide)

end Keyspace

end SecondaryIndex
