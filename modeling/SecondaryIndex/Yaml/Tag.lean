/-
**Tags, and the directives that give their handles a meaning.**

* `Place.tag?` reads a tag: in full between angle brackets, or a handle and a suffix;
* `Place.directive?` reads a directive;
* `Tag.ofParts?` looks up what a handle stands for, and `Tag.ofName` tells the tags that change what
  a scalar means.

A tag may hold escapes, a percent sign and two hexadecimal digits for each byte of a character. The
bytes are put together as they are, so two of them spell a character of their own.
-/

import SecondaryIndex.Text.Digits
import SecondaryIndex.Yaml.Place
import SecondaryIndex.Yaml.Token

namespace SecondaryIndex.Yaml

namespace Place

/-! ### Escapes -/

/-- The byte that an escape spells. -/
def escapedByte? (place : Place) : Option (Nat × Place) :=
  match place.rest with
  | '%' :: high :: low :: _ =>
    (Text.number? 16 [high, low]).map fun byte => (byte, place.skip 3)
  | _ => none

/-- How many bytes follow a leading one. -/
def followers? (byte : Nat) : Option Nat :=
  if byte < 0x80 then some 0
  else if 0xC0 ≤ byte ∧ byte < 0xE0 then some 1
  else if 0xE0 ≤ byte ∧ byte < 0xF0 then some 2
  else if 0xF0 ≤ byte ∧ byte < 0xF8 then some 3
  else none

/-- The code with so many further bytes behind it. -/
def followingBytes? (code : Nat) (place : Place) : Nat → Option (Nat × Place)
  | 0 => some (code, place)
  | count + 1 => do
    let (byte, place) ← place.escapedByte?
    if 0x80 ≤ byte ∧ byte < 0xC0 then followingBytes? (code * 0x100 + byte) place count else none

/-- The character that escapes spell. -/
def escapedChar? (place : Place) : Option (Char × Place) := do
  let (byte, place) ← place.escapedByte?
  let count ← followers? byte
  let (code, place) ← followingBytes? byte place count
  if code.isValidChar then some (Char.ofNat code, place) else none

/-- The characters of a class that are ahead, with escapes replaced. -/
def escapedSpan? (holds : Char → Bool) : Nat → Place → Option (List Char × Place)
  | 0, place => some ([], place)
  | fuel + 1, place =>
    match place.rest with
    | [] => some ([], place)
    | char :: _ =>
      if char = '%' then do
        let (char, place) ← place.escapedChar?
        let (chars, place) ← escapedSpan? holds fuel place
        return (char :: chars, place)
      else if holds char then do
        let (chars, place) ← escapedSpan? holds fuel place.next
        return (char :: chars, place)
      else some ([], place)

/-- The characters of a class that are ahead, with escapes replaced. -/
def escaped? (holds : Char → Bool) (place : Place) : Option (List Char × Place) :=
  escapedSpan? holds place.ahead place

/-! ### Tags -/

/-- The handle ahead: an exclamation mark, or two with a word between them. What follows only one is
a handle as well if no other mark ends it. -/
def handle? (place : Place) : Option (List Char × Place) :=
  if place.isAt '!' then
    let (word, after) := place.next.span isWordChar
    if after.isAt '!' then some ('!' :: word ++ ['!'], after.next) else some ('!' :: word, after)
  else none

/-- The tag between angle brackets. -/
def fullTag? (place : Place) : Option (Token × Place) := do
  let (name, place) ← (place.skip 2).escaped? isUriChar
  if place.isAt '>' then return (.tag "" (String.ofList name), place.next) else none

/-- The tag of a handle and a suffix. -/
def shortTag? (place : Place) : Option (Token × Place) := do
  let (handle, place) ← place.handle?
  let (suffix, place) ← place.escaped? isTagChar
  if 2 ≤ handle.length ∧ handle.getLast? = some '!' then
    if suffix.isEmpty then none
    else return (.tag (String.ofList handle) (String.ofList suffix), place)
  else
    let suffix := handle.drop 1 ++ suffix
    if suffix.isEmpty then return (.tag "" "!", place)
    else return (.tag "!" (String.ofList suffix), place)

/-- The tag ahead; `inBrackets`, marks that have a meaning there may follow it. -/
def tag? (inBrackets : Bool) (place : Place) : Option (Token × Place) := do
  let (tag, place) ← if place.next.isAt '<' then place.fullTag? else place.shortTag?
  if spaceAhead place.rest || (inBrackets && flowMarkAhead place.rest) then return (tag, place)
  else none

/-! ### Directives -/

/-- The number ahead, of nine digits at most. -/
def versionNumber? (place : Place) : Option Place :=
  let (digits, after) := place.span Char.isDigit
  if digits.isEmpty || 9 < digits.length then none else some after

/-- The version behind the name of its directive. -/
def version? (place : Place) : Option (Token × Place) := do
  let place ← (place.skipWhile isBlank).versionNumber?
  if place.isAt '.' then
    let place ← place.next.versionNumber?
    return (.version, place)
  else none

/-- What a handle stands for: the start of a tag. -/
def handleMeaning? (place : Place) : Option (List Char × Place) := do
  if place.isAt '!' then
    let (rest, place) ← place.next.escaped? isUriChar
    return ('!' :: rest, place)
  else if (place.rest.head?.map isTagChar).getD false then place.escaped? isUriChar
  else none

/-- A handle and what it stands for, behind the name of the directive. -/
def handleDirective? (place : Place) : Option (Token × Place) := do
  let (name, place) ← (place.skipWhile isBlank).handle?
  if name = ['!'] ∨ name.getLast? = some '!' then
    let (meaning, place) ← (place.skipWhile isBlank).handleMeaning?
    if spaceAhead place.rest then
      return (.handle (String.ofList name) (String.ofList meaning), place)
    else none
  else none

/-- The directive ahead, and the end of its line. One of an unknown name gives the empty handle the
empty meaning. -/
def directive? (place : Place) : Option (Token × Place) := do
  let (name, place) := place.next.span isWordChar
  if name.isEmpty || !spaceAhead place.rest then none
  else
    let (directive, place) ←
      if name = "YAML".toList then place.version?
      else if name = "TAG".toList then place.handleDirective?
      else some (.handle "" "", place.skipLine)
    let place ← place.lineEnd?
    return (directive, place)

end Place

/-! ### What tags mean -/

/-- What a tag says of a scalar. -/
inductive Tag where
  /-- There is none. -/
  | absent
  /-- A tag without a name: the scalar is a text, whatever it spells. -/
  | nameless
  | null
  | boolean
  | integer
  | double
  /-- The text spells bytes. -/
  | binary
  | text
  | sequence
  | mapping
  /-- Any other tag. -/
  | other
deriving DecidableEq

namespace Tag

/-- Where the tags of the standard start. -/
def standard : String := "tag:yaml.org,2002:"

/-- The tags with a meaning, by their names. -/
def named : List (String × Tag) :=
  [("null", .null), ("bool", .boolean), ("int", .integer), ("float", .double),
    ("binary", .binary), ("str", .text), ("seq", .sequence), ("map", .mapping)]

/-- What the two parts of a tag stand for, where the directives gave some handles a meaning. -/
def ofParts? (handles : List (String × String)) (handle suffix : String) :
    Option (String × String) :=
  if handle = "!!" then some ((handles.lookup "!!").getD standard, suffix)
  else if handle = "" ∧ suffix = "!" then some ((handles.lookup "").getD "", suffix)
  else
    match handles.lookup handle with
    | some meaning => some (meaning, suffix)
    | none =>
      if 2 ≤ handle.length ∧ handle.front = '!' ∧ handle.back = '!' then none
      else some (handle, suffix)

/-- The tag whose two parts stand for these. -/
def ofMeaning (start suffix : String) : Tag :=
  let written := if start = "!" then "!" ++ suffix else start ++ "!" ++ suffix
  if written = "!!" then .nameless
  else
    ((named.find? fun (name, _) => written = standard ++ "!" ++ name || written = "!!" ++ name).map
      Prod.snd).getD .other

end Tag

end SecondaryIndex.Yaml
