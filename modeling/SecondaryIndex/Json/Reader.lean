/-
**Reading JSON text, with the place and the cause of the first fault.**

* `read` accepts exactly one value between blanks, `readRaw` likewise but keeps repeated keys, and
  `readOf` leaves out the members that are of no interest;
* a `Fault` is a cause, and `ReadError` places it by line and by the bytes consumed in that line;
* a fault found by looking ahead is placed one byte further than one found by taking a byte. Whether
  a text is well formed is found at its end, and placed so many bytes before it as it has left from
  its first ill-formed part on;
* a number without fraction and exponent that fits 64 bits is an integer; `scaled` computes every
  other number from its significand and its power of ten, in one or two roundings.

The readers recurse on fuel; `read` hands out more than the input can use up, since every second
step consumes a byte.
-/

import SecondaryIndex.Bytes
import SecondaryIndex.Json.Interest
import SecondaryIndex.Json.Value

namespace SecondaryIndex.Json

/-- Why a text is no JSON value. -/
inductive Fault where
  | endInValue
  | endInText
  | endInList
  | endInObject
  | expectedColon
  | expectedListEnd
  | expectedObjectEnd
  | expectedIdent
  | expectedValue
  | invalidEscape
  | invalidNumber
  | numberOutOfRange
  | invalidCodePoint
  | controlCharacter
  | keyNotText
  | loneSurrogate
  | trailingComma
  | trailingCharacters
  | endOfHexEscape
  | recursionLimit
deriving DecidableEq

/-- The wording of a fault. -/
def Fault.message : Fault → String
  | .endInValue => "EOF while parsing a value"
  | .endInText => "EOF while parsing a string"
  | .endInList => "EOF while parsing a list"
  | .endInObject => "EOF while parsing an object"
  | .expectedColon => "expected `:`"
  | .expectedListEnd => "expected `,` or `]`"
  | .expectedObjectEnd => "expected `,` or `\x7d`"
  | .expectedIdent => "expected ident"
  | .expectedValue => "expected value"
  | .invalidEscape => "invalid escape"
  | .invalidNumber => "invalid number"
  | .numberOutOfRange => "number out of range"
  | .invalidCodePoint => "invalid unicode code point"
  | .controlCharacter => "control character (\\u0000-\\u001F) found while parsing a string"
  | .keyNotText => "key must be a string"
  | .loneSurrogate => "lone leading surrogate in hex escape"
  | .trailingComma => "trailing comma"
  | .trailingCharacters => "trailing characters"
  | .endOfHexEscape => "unexpected end of hex escape"
  | .recursionLimit => "recursion limit exceeded"

/-- A fault and its place. -/
structure ReadError where
  fault : Fault
  /-- Counted from one. -/
  line : Nat
  /-- The bytes consumed in the line. -/
  column : Nat
deriving DecidableEq

/-- The wording of a placed fault. -/
def ReadError.message (error : ReadError) : String :=
  error.fault.message ++ " at line " ++ toString error.line ++ " column " ++ toString error.column

/-! ### Cursors -/

/-- A place in the input: how many bytes were consumed and which are left. -/
structure Cursor where
  offset : Nat
  rest : Bytes

/-- A fault after a number of consumed bytes. -/
structure Failure where
  fault : Fault
  offset : Nat

namespace Cursor

/-- The place behind `count` bytes. -/
def skip (cursor : Cursor) (count : Nat) : Cursor :=
  ⟨cursor.offset + count, cursor.rest.drop count⟩

/-- A fault at the bytes consumed so far. -/
def fail (cursor : Cursor) (fault : Fault) : Failure :=
  ⟨fault, cursor.offset⟩

/-- A fault at the byte ahead, or at the end of the input. -/
def failAhead (cursor : Cursor) (fault : Fault) : Failure :=
  ⟨fault, cursor.offset + (cursor.rest.take 1).length⟩

/-- The byte is a blank. -/
def isBlank (byte : UInt8) : Bool :=
  byte = 0x20 || byte = 0x0A || byte = 0x09 || byte = 0x0D

/-- The place behind the blanks. -/
def skipBlanks (cursor : Cursor) : Cursor :=
  cursor.skip (cursor.rest.takeWhile isBlank).length

end Cursor

/-- The byte is a decimal digit. -/
def isDigit (byte : UInt8) : Bool :=
  0x30 ≤ byte && byte ≤ 0x39

/-- The value of a digit byte. -/
def digitValue (byte : UInt8) : Nat :=
  byte.toNat - 0x30

/-! ### Numbers -/

/-- Divides by a power of ten, in steps that a double can hold. -/
def divided (number : Float) (power : Nat) : Float :=
  if power ≤ 308 then number / Float.ofScientific 1 false power
  else if number == 0.0 then number
  else divided (number / Float.ofScientific 1 false 308) (power - 308)
termination_by power

/-- A significand times a power of ten; nothing where that is too large for a double. -/
def scaled (significand : Nat) (exponent : Int) : Option Float :=
  let number := (UInt64.ofNat significand).toFloat
  if exponent < 0 then some (divided number exponent.natAbs)
  else if exponent ≤ 308 then
    let product := number * Float.ofScientific 1 false exponent.natAbs
    if product.isInf then none else some product
  else if number == 0.0 then some number
  else none

/-- Takes digits up into a significand of 64 bits; the count tells how many did not fit, the first
of them and all after it. -/
def accumulate (significand : Nat) : List UInt8 → Nat × Nat
  | [] => (significand, 0)
  | digit :: rest =>
    let next := significand * 10 + digitValue digit
    if next < UInt64.size then accumulate next rest else (significand, rest.length + 1)

/-- A double made from a significand and an exponent, or the fault that it is too large. -/
def doubleAt (cursor : Cursor) (negative : Bool) (significand : Nat) (exponent : Int) :
    Except Failure (Number × Cursor) :=
  match scaled significand exponent with
  | none => .error (cursor.fail .numberOutOfRange)
  | some value => .ok (.double (if negative then -value else value), cursor)

/-- The exponent digits up to the first that makes it larger than 31 bits; the count tells how many
digits were taken. -/
def exponentDigits (exponent taken : Nat) : List UInt8 → Option Nat × Nat
  | [] => (some exponent, taken)
  | digit :: rest =>
    let next := exponent * 10 + digitValue digit
    if next < 0x80000000 then exponentDigits next (taken + 1) rest else (none, taken + 1)

/-- The exponent of a number, from behind its mark. -/
def readExponent (cursor : Cursor) (negative : Bool) (significand : Nat) (start : Int) :
    Except Failure (Number × Cursor) :=
  let (lowers, cursor) :=
    match cursor.rest with
    | 0x2B :: _ => (false, cursor.skip 1)
    | 0x2D :: _ => (true, cursor.skip 1)
    | _ => (false, cursor)
  match cursor.rest with
  | [] => .error (cursor.fail .endInValue)
  | first :: _ =>
    if isDigit first then
      let digits := cursor.rest.takeWhile isDigit
      match exponentDigits 0 0 digits with
      | (some exponent, _) =>
        doubleAt (cursor.skip digits.length) negative significand
          (if lowers then start - exponent else start + exponent)
      | (none, taken) =>
        if significand ≠ 0 ∧ !lowers then .error ((cursor.skip taken).fail .numberOutOfRange)
        else .ok (.double (if negative then -0.0 else 0.0), cursor.skip digits.length)
    else .error ((cursor.skip 1).fail .invalidNumber)

/-- The part of a number behind its fraction. -/
def readNumberEnd (cursor : Cursor) (negative : Bool) (significand : Nat) (exponent : Int) :
    Except Failure (Number × Cursor) :=
  match cursor.rest with
  | 0x65 :: _ | 0x45 :: _ => readExponent (cursor.skip 1) negative significand exponent
  | _ => doubleAt cursor negative significand exponent

/-- The fraction of a number, from behind its point. -/
def readFraction (cursor : Cursor) (negative : Bool) (significand : Nat) (exponent : Int) :
    Except Failure (Number × Cursor) :=
  let digits := cursor.rest.takeWhile isDigit
  if digits.isEmpty then
    .error (cursor.failAhead (if cursor.rest.isEmpty then .endInValue else .invalidNumber))
  else
    let (significand, dropped) := accumulate significand digits
    readNumberEnd (cursor.skip digits.length) negative significand
      (exponent - (digits.length - dropped))

/-- The integer that a sign and a significand make; minus zero and what 64 bits do not hold are
doubles. -/
def wholeNumber (negative : Bool) (significand : Nat) : Number :=
  if negative then
    if fits : significand ≠ 0 ∧ significand ≤ 0x8000000000000000 then
      .integer (-significand) (by omega)
    else .double (-(UInt64.ofNat significand).toFloat)
  else if fits : significand < 0x10000000000000000 then .integer significand (by omega)
  else .double (UInt64.ofNat significand).toFloat

/-- A number, from behind its sign. -/
def readNumber (cursor : Cursor) (negative : Bool) : Except Failure (Number × Cursor) :=
  match cursor.rest with
  | [] => .error (cursor.fail .endInValue)
  | first :: rest =>
    if !isDigit first then .error ((cursor.skip 1).fail .invalidNumber)
    else if first = 0x30 && (rest.take 1).any isDigit then
      .error ((cursor.skip 1).failAhead .invalidNumber)
    else
      let digits := cursor.rest.takeWhile isDigit
      let (significand, dropped) := accumulate 0 digits
      let behind := cursor.skip digits.length
      match behind.rest with
      | 0x2E :: _ => readFraction (behind.skip 1) negative significand dropped
      | 0x65 :: _ | 0x45 :: _ => readExponent (behind.skip 1) negative significand dropped
      | _ =>
        if dropped = 0 then .ok (wholeNumber negative significand, behind)
        else doubleAt behind negative significand dropped

/-! ### Texts -/

/-- The value of a hexadecimal digit. -/
def hexValue? (byte : UInt8) : Option Nat :=
  if isDigit byte then some (digitValue byte)
  else if 0x61 ≤ byte ∧ byte ≤ 0x66 then some (byte.toNat - 0x61 + 10)
  else if 0x41 ≤ byte ∧ byte ≤ 0x46 then some (byte.toNat - 0x41 + 10)
  else none

/-- The four digits of a hexadecimal escape. -/
def readHex (cursor : Cursor) : Except Failure (Nat × Cursor) :=
  match cursor.rest with
  | first :: second :: third :: fourth :: _ =>
    let behind := cursor.skip 4
    match hexValue? first, hexValue? second, hexValue? third, hexValue? fourth with
    | some first, some second, some third, some fourth =>
      .ok (((first * 16 + second) * 16 + third) * 16 + fourth, behind)
    | _, _, _, _ => .error (behind.fail .invalidEscape)
  | _ => .error ((cursor.skip cursor.rest.length).fail .endInText)

/-- The UTF-8 form of a code point. -/
def codePointBytes (code : Nat) : Bytes :=
  Bytes.ofString (String.singleton (Char.ofNat code))

/-- The byte that must come next in a surrogate pair. -/
def readPairByte (cursor : Cursor) (expected : UInt8) : Except Failure Cursor :=
  match cursor.rest with
  | [] => .error (cursor.fail .endInText)
  | byte :: _ =>
    if byte = expected then .ok (cursor.skip 1)
    else .error ((cursor.skip 1).fail .endOfHexEscape)

/-- A hexadecimal escape, from behind its mark; a leading surrogate asks for a second escape. -/
def readCodePoint (cursor : Cursor) : Except Failure (Bytes × Cursor) := do
  let (lead, cursor) ← readHex cursor
  if 0xDC00 ≤ lead ∧ lead ≤ 0xDFFF then .error (cursor.fail .loneSurrogate)
  else if lead < 0xD800 ∨ 0xDBFF < lead then .ok (codePointBytes lead, cursor)
  else
    let cursor ← readPairByte cursor 0x5C
    let cursor ← readPairByte cursor 0x75
    let (trail, cursor) ← readHex cursor
    if trail < 0xDC00 ∨ 0xDFFF < trail then .error (cursor.fail .loneSurrogate)
    else .ok (codePointBytes ((lead - 0xD800) * 0x400 + (trail - 0xDC00) + 0x10000), cursor)

/-- An escape, from behind its backslash. -/
def readEscape (cursor : Cursor) : Except Failure (Bytes × Cursor) :=
  match cursor.rest with
  | [] => .error (cursor.fail .endInText)
  | mark :: _ =>
    let behind := cursor.skip 1
    if mark = 0x22 ∨ mark = 0x5C ∨ mark = 0x2F then .ok ([mark], behind)
    else if mark = 0x62 then .ok ([0x08], behind)
    else if mark = 0x66 then .ok ([0x0C], behind)
    else if mark = 0x6E then .ok ([0x0A], behind)
    else if mark = 0x72 then .ok ([0x0D], behind)
    else if mark = 0x74 then .ok ([0x09], behind)
    else if mark = 0x75 then readCodePoint behind
    else .error (behind.fail .invalidEscape)

/-- The bytes of a text up to its closing quote, which is left in place. -/
def readTextBytes : Nat → Cursor → Except Failure (Bytes × Cursor)
  | 0, cursor => .error (cursor.fail .endInText)
  | fuel + 1, cursor =>
    match cursor.rest with
    | [] => .error (cursor.fail .endInText)
    | byte :: _ =>
      if byte = 0x22 then .ok ([], cursor)
      else if byte = 0x5C then do
        let (part, cursor) ← readEscape (cursor.skip 1)
        let (rest, cursor) ← readTextBytes fuel cursor
        .ok (part ++ rest, cursor)
      else if byte < 0x20 then .error ((cursor.skip 1).fail .controlCharacter)
      else do
        let (rest, cursor) ← readTextBytes fuel (cursor.skip 1)
        .ok (byte :: rest, cursor)

/-- A text, from behind its opening quote. -/
def readText (cursor : Cursor) : Except Failure (String × Cursor) := do
  let (bytes, cursor) ← readTextBytes (cursor.rest.length + 1) cursor
  match Bytes.toText? bytes with
  | some content => .ok (content, cursor.skip 1)
  | none =>
    .error ⟨.invalidCodePoint, cursor.offset + 1 - (bytes.length - bytes.wellFormedLength)⟩

/-! ### Passing over -/

/-- The place behind at least one digit. -/
def passDigits (cursor : Cursor) : Except Failure Cursor :=
  let digits := cursor.rest.takeWhile isDigit
  if digits.isEmpty then
    .error (cursor.failAhead (if cursor.rest.isEmpty then .endInValue else .invalidNumber))
  else .ok (cursor.skip digits.length)

/-- The place behind an exponent, if there is one. -/
def passExponent (cursor : Cursor) : Except Failure Cursor :=
  match cursor.rest with
  | 0x65 :: sign :: _ | 0x45 :: sign :: _ =>
    passDigits (cursor.skip (if sign = 0x2B ∨ sign = 0x2D then 2 else 1))
  | [0x65] | [0x45] => .error ((cursor.skip 1).fail .endInValue)
  | _ => .ok cursor

/-- The place behind a number, from behind its sign. -/
def passNumber (cursor : Cursor) : Except Failure Cursor := do
  let whole ← passDigits cursor
  if cursor.rest.head? = some 0x30 ∧ 1 < whole.offset - cursor.offset then
    .error ((cursor.skip 1).failAhead .invalidNumber)
  else if whole.rest.head? = some 0x2E then passExponent (← passDigits (whole.skip 1))
  else passExponent whole

/-- The place behind an escape, from behind its backslash. -/
def passEscape (cursor : Cursor) : Except Failure Cursor :=
  match cursor.rest with
  | [] => .error (cursor.fail .endInText)
  | mark :: _ =>
    let behind := cursor.skip 1
    if mark = 0x75 then (readHex behind).map (·.2)
    else if (Bytes.ofString "\"\\/bfnrt").contains mark then .ok behind
    else .error (behind.fail .invalidEscape)

/-- The place behind a text, from behind its opening quote. -/
def passText : Nat → Cursor → Except Failure Cursor
  | 0, cursor => .error (cursor.fail .endInText)
  | fuel + 1, cursor =>
    match cursor.rest with
    | [] => .error (cursor.fail .endInText)
    | byte :: _ =>
      if byte = 0x22 then .ok (cursor.skip 1)
      else if byte = 0x5C then do passText fuel (← passEscape (cursor.skip 1))
      else if byte < 0x20 then .error ((cursor.skip 1).fail .controlCharacter)
      else passText fuel (cursor.skip 1)

/-- A text if it is of interest, from behind its opening quote. -/
def readTextIf (wanted : Bool) (cursor : Cursor) : Except Failure (String × Cursor) :=
  if wanted then readText cursor else (passText (cursor.rest.length + 1) cursor).map ("", ·)

/-- A number if it is of interest, from behind its sign. -/
def readNumberIf (wanted : Bool) (cursor : Cursor) (negative : Bool) :
    Except Failure (Json × Cursor) :=
  if wanted then (readNumber cursor negative).map fun (value, cursor) => (.number value, cursor)
  else (passNumber cursor).map (.null, ·)

/-! ### Values -/

/-- The rest of a word of which the first byte is read. -/
def readWord : Bytes → Cursor → Except Failure Cursor
  | [], cursor => .ok cursor
  | expected :: word, cursor =>
    match cursor.rest with
    | [] => .error (cursor.fail .endInValue)
    | byte :: _ =>
      if byte = expected then readWord word (cursor.skip 1)
      else .error ((cursor.skip 1).fail .expectedIdent)

/-- How deep arrays and objects may nest, the outermost included, plus one. -/
def depthLimit : Nat := 128

mutual

/-- A value, blanks before it skipped. -/
def readValue : Nat → Nat → Interest → Cursor → Except Failure (Json × Cursor)
  | 0, _, _, cursor => .error (cursor.fail .recursionLimit)
  | fuel + 1, depth, interest, cursor =>
    let cursor := cursor.skipBlanks
    let wanted := !interest.isNothing
    match cursor.rest with
    | [] => .error (cursor.failAhead .endInValue)
    | byte :: _ =>
      let behind := cursor.skip 1
      if byte = 0x6E then
        (readWord (Bytes.ofString "ull") behind).map (.null, ·)
      else if byte = 0x74 then
        (readWord (Bytes.ofString "rue") behind).map (.boolean true, ·)
      else if byte = 0x66 then
        (readWord (Bytes.ofString "alse") behind).map (.boolean false, ·)
      else if byte = 0x2D then readNumberIf wanted behind true
      else if isDigit byte then readNumberIf wanted cursor false
      else if byte = 0x22 then
        (readTextIf wanted behind).map fun (value, cursor) => (Json.text value, cursor)
      else if byte = 0x5B then
        if depth ≤ 1 && wanted then .error (cursor.failAhead .recursionLimit)
        else (readItems fuel (depth - 1) interest 0 behind).map fun (items, cursor) =>
          (.array items, cursor)
      else if byte = 0x7B then
        if depth ≤ 1 && wanted then .error (cursor.failAhead .recursionLimit)
        else (readMembers fuel (depth - 1) interest true behind).map fun (members, cursor) =>
          (.object members, cursor)
      else .error (cursor.failAhead .expectedValue)

/-- The items of an array up to its end, from behind the bracket or behind an item; `index` counts
the items before. -/
def readItems : Nat → Nat → Interest → Nat → Cursor → Except Failure (List Json × Cursor)
  | 0, _, _, _, cursor => .error (cursor.fail .recursionLimit)
  | fuel + 1, depth, interest, index, cursor => do
    let cursor := cursor.skipBlanks
    match cursor.rest with
    | [] => .error (cursor.failAhead .endInList)
    | byte :: _ =>
      if byte = 0x5D then .ok ([], cursor.skip 1)
      else
        let cursor ←
          if index = 0 then .ok cursor
          else if byte = 0x2C then
            let cursor := (cursor.skip 1).skipBlanks
            match cursor.rest with
            | [] => .error (cursor.failAhead .endInValue)
            | next :: _ =>
              if next = 0x5D then .error (cursor.failAhead .trailingComma) else .ok cursor
          else .error (cursor.failAhead .expectedListEnd)
        let (item, cursor) ← readValue fuel depth (interest.item index) cursor
        let (rest, cursor) ← readItems fuel depth interest (index + 1) cursor
        .ok (item :: rest, cursor)

/-- The members of an object up to its end, from behind the brace or behind a member. -/
def readMembers :
    Nat → Nat → Interest → Bool → Cursor → Except Failure (List (String × Json) × Cursor)
  | 0, _, _, _, cursor => .error (cursor.fail .recursionLimit)
  | fuel + 1, depth, interest, first, cursor => do
    let cursor := cursor.skipBlanks
    match cursor.rest with
    | [] => .error (cursor.failAhead .endInObject)
    | byte :: _ =>
      if byte = 0x7D then .ok ([], cursor.skip 1)
      else
        let cursor ←
          if first then
            if byte = 0x22 then .ok cursor else .error (cursor.failAhead .keyNotText)
          else if byte = 0x2C then
            let cursor := (cursor.skip 1).skipBlanks
            match cursor.rest with
            | [] => .error (cursor.failAhead .endInValue)
            | next :: _ =>
              if next = 0x22 then .ok cursor
              else if next = 0x7D then .error (cursor.failAhead .trailingComma)
              else .error (cursor.failAhead .keyNotText)
          else .error (cursor.failAhead .expectedObjectEnd)
        let (key, cursor) ← readTextIf (!interest.isNothing) (cursor.skip 1)
        let cursor := cursor.skipBlanks
        match cursor.rest with
        | [] => .error (cursor.failAhead .endInObject)
        | colon :: _ =>
          if colon = 0x3A then
            let wanted := interest.member key
            let (value, cursor) ← readValue fuel depth wanted (cursor.skip 1)
            let (rest, cursor) ← readMembers fuel depth interest false cursor
            .ok (if wanted.isNothing then rest else (key, value) :: rest, cursor)
          else .error (cursor.failAhead .expectedColon)

end

/-- One value and nothing behind it but blanks. -/
def readAll (interest : Interest) (bytes : Bytes) : Except Failure Json := do
  let (value, cursor) ← readValue (2 * bytes.length + 4) depthLimit interest ⟨0, bytes⟩
  let cursor := cursor.skipBlanks
  if cursor.rest.isEmpty then .ok value else .error (cursor.failAhead .trailingCharacters)

/-- The place of a fault in the input. -/
def Failure.located (failure : Failure) (bytes : Bytes) : ReadError :=
  let before := bytes.take failure.offset
  { fault := failure.fault
    line := before.count 0x0A + 1
    column := (before.reverse.takeWhile (· ≠ 0x0A)).length }

/-- The value that a text spells, as far as it is of interest, repeated keys kept. -/
def readOf (interest : Interest) (bytes : Bytes) : Except ReadError Json :=
  (readAll interest bytes).mapError (·.located bytes)

/-- The value that a text spells, repeated keys kept. -/
def readRaw (bytes : Bytes) : Except ReadError Json :=
  readOf .everything bytes

/-- The value that a text spells. -/
def read (bytes : Bytes) : Except ReadError Json :=
  (readRaw bytes).map merged

end SecondaryIndex.Json
