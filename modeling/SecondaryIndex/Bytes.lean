/-
**Byte strings: the keys, members, field names and values that a store holds.**

* `ofString` is the UTF-8 form of a text, `toText?` the text of well-formed bytes, and
  `toText?_ofString` says that the second undoes the first;
* `ofString_append` and `ofString_inj` let keys be compared piece by piece;
* `toTextLossy` reads any bytes, one replacement character for each ill-formed part, and
  `wellFormedLength` tells where the first of these starts;
* `quoted` is the diagnostic spelling `b"..."`.
-/

namespace SecondaryIndex

/-- A byte string. Core's order on lists makes it ordered byte by byte, a proper prefix first. -/
abbrev Bytes := List UInt8

namespace Bytes

/-! ## Part 1: text as bytes -/

/-- The UTF-8 form of a text. -/
def ofString (text : String) : Bytes :=
  text.toByteArray.data.toList

/-- The text whose UTF-8 form the bytes are, if they are well formed. -/
def toText? (bytes : Bytes) : Option String :=
  String.fromUTF8? ⟨bytes.toArray⟩

@[simp] theorem ofString_empty : ofString "" = [] := rfl

/-- Joining texts joins their bytes. -/
@[simp] theorem ofString_append (first second : String) :
    ofString (first ++ second) = ofString first ++ ofString second := by
  simp [ofString]

/-- Different texts have different bytes. -/
theorem ofString_inj {first second : String} :
    ofString first = ofString second ↔ first = second := by
  constructor
  · intro equal
    have data : first.toByteArray.data = second.toByteArray.data := Array.toList_inj.mp equal
    exact String.toByteArray_inj.mp (ByteArray.ext data)
  · rintro rfl
    rfl

/-- Reading back the bytes of a text gives the text. -/
@[simp] theorem toText?_ofString (text : String) : toText? (ofString text) = some text := by
  have valid : ByteArray.IsValidUTF8 ⟨text.toByteArray.data⟩ := text.isValidUTF8
  simp [toText?, ofString, String.fromUTF8?, valid, String.fromUTF8]

/-! ## Part 2: reading ill-formed bytes -/

/-- The continuation bytes that a leading byte asks for, each as an inclusive range; `none` for a
byte that starts no character. -/
def continuations (lead : UInt8) : Option (List (UInt8 × UInt8)) :=
  if lead < 0x80 then some []
  else if lead < 0xC2 then none
  else if lead < 0xE0 then some [(0x80, 0xBF)]
  else if lead = 0xE0 then some [(0xA0, 0xBF), (0x80, 0xBF)]
  else if lead = 0xED then some [(0x80, 0x9F), (0x80, 0xBF)]
  else if lead < 0xF0 then some [(0x80, 0xBF), (0x80, 0xBF)]
  else if lead = 0xF0 then some [(0x90, 0xBF), (0x80, 0xBF), (0x80, 0xBF)]
  else if lead < 0xF4 then some [(0x80, 0xBF), (0x80, 0xBF), (0x80, 0xBF)]
  else if lead = 0xF4 then some [(0x80, 0x8F), (0x80, 0xBF), (0x80, 0xBF)]
  else none

/-- How many bytes at the front fall into the given ranges, one range after the other. -/
def matching : List (UInt8 × UInt8) → Bytes → Nat
  | (low, high) :: ranges, byte :: rest =>
    if low ≤ byte ∧ byte ≤ high then matching ranges rest + 1 else 0
  | _, _ => 0

/-- The payload of a leading byte with `count` continuation bytes. -/
def leadBits (lead : UInt8) : Nat → Nat
  | 0 => lead.toNat
  | 1 => lead.toNat % 32
  | 2 => lead.toNat % 16
  | _ => lead.toNat % 8

/-- Any bytes as text: a maximal ill-formed part becomes one replacement character. -/
def lossyChars : Bytes → List Char
  | [] => []
  | lead :: rest =>
    match continuations lead with
    | none => '\uFFFD' :: lossyChars rest
    | some ranges =>
      let count := matching ranges rest
      let shown :=
        if count = ranges.length then
          Char.ofNat ((rest.take count).foldl (fun code byte => code * 64 + byte.toNat % 64)
            (leadBits lead count))
        else '\uFFFD'
      shown :: lossyChars (rest.drop count)
termination_by bytes => bytes.length
decreasing_by all_goals (simp only [List.length_drop, List.length_cons]; omega)

/-- How many bytes stand before the first ill-formed part. -/
def wellFormedLength : Bytes → Nat
  | [] => 0
  | lead :: rest =>
    match continuations lead with
    | none => 0
    | some ranges =>
      if matching ranges rest = ranges.length then
        wellFormedLength (rest.drop ranges.length) + ranges.length + 1
      else 0
termination_by bytes => bytes.length
decreasing_by all_goals (simp only [List.length_drop, List.length_cons]; omega)

/-- Any bytes as text, see `lossyChars`. -/
def toTextLossy (bytes : Bytes) : String :=
  (toText? bytes).getD (String.ofList (lossyChars bytes))

/-! ## Part 3: the diagnostic spelling -/

/-- The lower-case hexadecimal digits of a byte. -/
def hexDigits (byte : UInt8) : String :=
  String.ofList [Nat.digitChar (byte.toNat / 16), Nat.digitChar (byte.toNat % 16)]

/-- One byte inside `b"..."`: printable ASCII as it is, the rest escaped. -/
def quotedByte (byte : UInt8) : String :=
  if byte = 0x0A then "\\n"
  else if byte = 0x0D then "\\r"
  else if byte = 0x09 then "\\t"
  else if byte = 0x5C then "\\\\"
  else if byte = 0x22 then "\\\""
  else if byte = 0x00 then "\\0"
  else if 0x20 ≤ byte ∧ byte < 0x7F then String.singleton (Char.ofNat byte.toNat)
  else "\\x" ++ hexDigits byte

/-- The diagnostic spelling of bytes, `b"..."`. -/
def quoted (bytes : Bytes) : String :=
  "b\"" ++ String.join (bytes.map quotedByte) ++ "\""

end Bytes

end SecondaryIndex
