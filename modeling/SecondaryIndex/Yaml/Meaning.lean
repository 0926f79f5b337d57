/-
**What YAML nodes mean.**

* `scalarMeaning?` gives a scalar its meaning: nothing, a truth value, a number or a text. A quoted
  scalar is a text, whatever it spells, and a tag can make it one or spoil it;
* `Node.reading` gives every node its meaning, if it has one: a mapping has none that repeats a key;
* a key `<<` stands for the entries of its value, a mapping or a sequence of mappings: those whose
  keys the mapping has itself do not count. `Node.entries?` is what the mapping then consists of.
-/

import SecondaryIndex.Decimal.Reader
import SecondaryIndex.Json.Value
import SecondaryIndex.Text.Base64
import SecondaryIndex.Text.White
import SecondaryIndex.Yaml.Node

namespace SecondaryIndex.Yaml

/-- What a node means. -/
inductive Meaning where
  | null
  | boolean (value : Bool)
  /-- An integer without a minus sign. -/
  | natural (value : Nat)
  /-- An integer behind a minus sign. -/
  | negated (size : Nat)
  | double (value : Float)
  | text (value : String)
  | sequence (items : List Meaning)
  | mapping (entries : List (Meaning × Meaning))

namespace Meaning

mutual

/-- A meaning as a JSON value. Of a mapping it has the entries whose keys are texts. -/
def toJson : Meaning → Json
  | .null => .null
  | .boolean value => .boolean value
  | .natural value => .number (.ofInt value)
  | .negated size => .number (.ofInt (-size))
  | .double value => .number (.double value)
  | .text value => .text value
  | .sequence items => .array (toJsonItems items)
  | .mapping entries => .object (toJsonEntries entries)

/-- Items as JSON values. -/
def toJsonItems : List Meaning → List Json
  | [] => []
  | item :: rest => toJson item :: toJsonItems rest

/-- Entries as the members of a JSON object. -/
def toJsonEntries : List (Meaning × Meaning) → List (String × Json)
  | [] => []
  | (.text key, value) :: rest => (key, toJson value) :: toJsonEntries rest
  | _ :: rest => toJsonEntries rest

end

end Meaning

/-! ## Part 1: scalars -/

/-- A text without regard to case. -/
def lower (text : List Char) : String :=
  String.ofList (text.map Char.toLower)

/-- The text stands for nothing, where it is plain. -/
def isNull (text : String) : Bool :=
  text = "" || text = "~" || lower text.toList = "null"

/-- The truth value that a text stands for. -/
def truth? (text : List Char) : Option Bool :=
  if ["true", "yes", "y", "on"].contains (lower text) then some true
  else if ["false", "no", "n", "off"].contains (lower text) then some false
  else none

/-- The base of digits, and the digits without the mark that tells it. -/
def baseOf : List Char → Nat × List Char
  | '0' :: mark :: rest =>
    if mark.toLower = 'x' then (16, rest)
    else if mark.toLower = 'o' then (8, rest)
    else if mark.toLower = 'b' then (2, rest)
    else (10, '0' :: mark :: rest)
  | digits => (10, digits)

/-- The number that digits spell, with underscores anywhere among them. -/
def digits? (text : List Char) : Option Nat :=
  let (base, digits) := baseOf text
  let digits := digits.filter (· ≠ '_')
  if digits.isEmpty then none else Text.number? base digits

/-- The integer of 64 bits that a text spells; only behind a minus sign, one bit is for the sign. -/
def integer? : List Char → Option Meaning
  | '-' :: text =>
    (digits? text).bind fun size =>
      if size ≤ 0x8000000000000000 then some (.negated size) else none
  | text =>
    let text := if text.head? = some '+' then text.drop 1 else text
    (digits? text).bind fun value =>
      if value < 0x10000000000000000 then some (.natural value) else none

/-- The words for numbers that are not finite. -/
def wordNumeral? (text : List Char) : Option Decimal.Numeral :=
  match lower text with
  | ".nan" | "+.nan" | "-.nan" => some .undefined
  | ".inf" | "+.inf" => some (.infinite false)
  | "-.inf" => some (.infinite true)
  | _ => none

/-- A double; those that are not finite mean a word for them. -/
def doubleMeaning (value : Float) : Meaning :=
  if value.isNaN then .text ".nan"
  else if value.isInf then .text (if value < 0 then "-.inf" else ".inf")
  else .double value

/-- The double that a text spells. -/
def double? (text : List Char) : Option Meaning :=
  ((wordNumeral? text).or (Decimal.Numeral.ofText? (String.ofList text))).map fun numeral =>
    doubleMeaning numeral.toFloat

/-- The text of bytes in base 64, white space among them passed over. -/
def binaryText? (text : String) : Option String := do
  let bytes ← Text.base64Bytes? (text.toList.filter fun char => !Text.isWhite char)
  bytes.toText?

/-- The text that a scalar is: none if its tag says that it is something else. -/
def scalarText? (text : String) : Tag → Option String
  | .binary => binaryText? text
  | .absent | .nameless | .text | .other => some text
  | .null | .boolean | .integer | .double | .sequence | .mapping => none

/-- What a plain scalar spells that is no text: white space on either side does not count. -/
def plainValue? (text : String) : Option Meaning :=
  let inner := Text.trimmed text.toList
  ((truth? inner).map Meaning.boolean).or ((integer? inner).or (double? inner))

/-- What a scalar means. -/
def scalarMeaning? (text : String) (isPlain : Bool) (tag : Tag) : Option Meaning :=
  if tag = .null || (isPlain && isNull text) then some .null
  else
    let isText := !isPlain || tag = .nameless || scalarText? "" tag = none
    let value? := if isText then none else plainValue? text
    value?.or ((scalarText? text tag).map .text)

/-! ## Part 2: nodes -/

/-- An entry of a mapping, with the meanings of its key and its value where they have any. -/
structure Entry where
  key : Node
  value : Node
  keyMeaning? : Option Meaning
  valueMeaning? : Option Meaning

/-- What a node means, if anything, and the entries that it stands for behind a key `<<`. -/
structure Reading where
  meaning? : Option Meaning
  merged? : Option (List Entry)

/-- An entry of a mapping, and what its value stands for behind a key `<<`. -/
structure Row where
  entry : Entry
  merged? : Option (List Entry)

/-- The key stands for the entries of its value. -/
def Node.isMergeKey : Node → Bool
  | .scalar text isPlain tag => text = "<<" && isPlain && tag = .absent
  | _ => false

/-- The row stands for the entries of its value. -/
def Row.isMerge (row : Row) : Bool :=
  row.entry.key.isMergeKey

/-- The entries that a mapping has itself. -/
def ownEntries (rows : List Row) : List Entry :=
  (rows.filter fun row => !row.isMerge).map Row.entry

/-- The entries that a mapping has by its keys `<<`. -/
def mergedEntries? (rows : List Row) : Option (List Entry) :=
  ((rows.filter Row.isMerge).mapM Row.merged?).map List.flatten

/-- No two entries have the same key. -/
def distinctKeys : List Entry → Bool
  | [] => true
  | entry :: rest => !(rest.any fun other => entry.key.isSame other.key) && distinctKeys rest

/-- What a mapping consists of: its own entries, whose keys are all different, and of the others
those that have no key of its own. -/
def entriesOf? (rows : List Row) : Option (List Entry) := do
  let own := ownEntries rows
  let merged ← mergedEntries? rows
  if distinctKeys own then
    return own ++ merged.filter fun entry => !(own.any fun other => other.key.isSame entry.key)
  else none

/-- The meaning of a key with that of its value. -/
def Entry.meaning? (entry : Entry) : Option (Meaning × Meaning) := do
  let key ← entry.keyMeaning?
  let value ← entry.valueMeaning?
  return (key, value)

namespace Node

mutual

/-- What a node means, and what it stands for behind a key `<<`. -/
def reading : Node → Reading
  | .scalar text isPlain tag =>
    ⟨scalarMeaning? text isPlain tag, if isPlain && isNull text then some [] else none⟩
  | .sequence items =>
    let readings := itemReadings items
    ⟨(readings.mapM Reading.meaning?).map .sequence,
      (readings.mapM Reading.merged?).map List.flatten⟩
  | .mapping entries =>
    let rows := rows entries
    ⟨(entriesOf? rows).bind fun entries => (entries.mapM Entry.meaning?).map .mapping,
      (mergedEntries? rows).map (ownEntries rows ++ ·)⟩

/-- What the items mean. -/
def itemReadings : List Node → List Reading
  | [] => []
  | item :: rest => reading item :: itemReadings rest

/-- The rows of a mapping. -/
def rows : List (Node × Node) → List Row
  | [] => []
  | (key, value) :: rest =>
    let held := reading value
    ⟨⟨key, value, (reading key).meaning?, held.meaning?⟩, held.merged?⟩ :: rows rest

end

/-- What a node means. -/
def meaning? (node : Node) : Option Meaning :=
  node.reading.meaning?

/-- What a mapping consists of. -/
def entries? : Node → Option (List Entry)
  | .mapping entries => entriesOf? (rows entries)
  | _ => none

/-- The text that a node is, whatever else it may mean. -/
def text? : Node → Option String
  | .scalar text _ tag => scalarText? text tag
  | _ => none

end Node

end SecondaryIndex.Yaml
