/-
**Places in a YAML text, and the classes of characters that are told apart there.**

* a `Place` is what is still to be read, how much that is, and how far into its line it starts;
* `Place.next` steps over one character, `span` over all that are of one class;
* `Place.spacing` steps over what may stand between two tokens of one line;
* `Place.atMark` tells where a document starts or ends.

Line breaks are single characters here: `unifiedBreaks` makes them so, and a text ends before its
first null character.
-/

namespace SecondaryIndex.Yaml

/-! ### Classes of characters -/

/-- A blank inside a line. -/
def isBlank (char : Char) : Bool :=
  char = ' ' || char = '\t'

/-- A blank or a line break. -/
def isSpace (char : Char) : Bool :=
  isBlank char || char = '\n'

/-- The character has a meaning of its own inside brackets. -/
def isFlowMark (char : Char) : Bool :=
  ",[]\x7b\x7d".toList.contains char

/-- The character ends an item inside brackets. -/
def endsItem (char : Char) : Bool :=
  char = ',' || char = ']' || char = '\x7d'

/-- A letter, a digit, a hyphen or an underscore. -/
def isWordChar (char : Char) : Bool :=
  char.isAlphanum || char = '-' || char = '_'

/-- The character can stand in a resource identifier. -/
def isUriChar (char : Char) : Bool :=
  char.isAlphanum || "-#;/?:@&=+$,_.!~*'()[]%".toList.contains char

/-- The character can stand in a tag that is not written in full. -/
def isTagChar (char : Char) : Bool :=
  isUriChar char && !isFlowMark char && char ≠ '!'

/-- The character can stand in a name for a node. -/
def isNameChar (char : Char) : Bool :=
  !isSpace char && !isFlowMark char && char ≠ '\uFEFF'

/-- A blank or a line break is ahead, or nothing is. -/
def spaceAhead : List Char → Bool
  | [] => true
  | char :: _ => isSpace char

/-- A line break is ahead, or nothing is. -/
def lineEndAhead : List Char → Bool
  | [] => true
  | char :: _ => char = '\n'

/-- A character with a meaning inside brackets is ahead. -/
def flowMarkAhead : List Char → Bool
  | [] => false
  | char :: _ => isFlowMark char

/-- Three such characters are ahead, and behind them a blank, a line break or nothing. -/
def tripleAhead (mark : Char) (text : List Char) : Bool :=
  text.take 3 = [mark, mark, mark] && spaceAhead (text.drop 3)

/-- A text with one kind of line break. -/
def unifiedBreaks : List Char → List Char
  | '\r' :: '\n' :: rest => '\n' :: unifiedBreaks rest
  | '\r' :: rest => '\n' :: unifiedBreaks rest
  | char :: rest => char :: unifiedBreaks rest
  | [] => []

/-! ### Places -/

/-- A place in a text. -/
structure Place where
  /-- What is still to be read. -/
  rest : List Char
  /-- How many characters that are. -/
  ahead : Nat
  /-- How many lines have ended before. -/
  line : Nat
  /-- How many characters of the line stand before. -/
  column : Nat
  /-- Only blanks stand before on the line. -/
  isIndenting : Bool

namespace Place

/-- The start of a text. A byte order mark there is passed over. -/
def ofString (text : String) : Place :=
  let chars := text.toList
  let chars := if chars.head? = some '\uFEFF' then chars.drop 1 else chars
  let rest := unifiedBreaks (chars.takeWhile (· ≠ '\x00'))
  ⟨rest, rest.length, 0, 0, true⟩

/-- The place behind the character ahead. -/
def next (place : Place) : Place :=
  match place.rest with
  | [] => place
  | char :: rest =>
    if char = '\n' then ⟨rest, place.ahead - 1, place.line + 1, 0, true⟩
    else
      ⟨rest, place.ahead - 1, place.line, place.column + 1, place.isIndenting && isBlank char⟩

/-- The place so many characters later. -/
def skip (place : Place) : Nat → Place
  | 0 => place
  | count + 1 => place.next.skip count

/-- The characters of a class that are ahead, and the place behind them. -/
def span (holds : Char → Bool) (place : Place) : List Char × Place :=
  let taken := place.rest.takeWhile holds
  (taken, place.skip taken.length)

/-- The place behind the characters of a class. -/
def skipWhile (holds : Char → Bool) (place : Place) : Place :=
  (place.span holds).2

/-- The place behind the rest of the line. -/
def skipLine (place : Place) : Place :=
  place.skipWhile (· ≠ '\n')

/-- Nothing more stands on the line. -/
def atLineEnd (place : Place) : Bool :=
  lineEndAhead place.rest

/-- Such a character is ahead. -/
def isAt (char : Char) (place : Place) : Bool :=
  place.rest.head? = some char

/-- Such a character is ahead, and it stands alone: a blank, a line break or nothing follows. -/
def isAtLone (char : Char) (place : Place) : Bool :=
  place.isAt char && spaceAhead (place.rest.drop 1)

/-- The mark of a start or an end of a document is ahead. -/
def atMark (place : Place) : Bool :=
  tripleAhead '-' place.rest || tripleAhead '.' place.rest

/-! ### Between tokens of one line -/

/-- Blanks and a comment behind a token, and the place where they end. -/
structure Spacing where
  /-- A tab is among them. -/
  hasTab : Bool
  /-- A space is among them. -/
  hasSpace : Bool
  place : Place

/-- The place on which nothing but spaces, tabs where they are allowed, and a comment follow. A
comment has to stand apart from what is before it. -/
def spacing (allowsTabs : Bool) (place : Place) : Option Spacing :=
  let (blanks, after) := place.span fun char => char = ' ' || (allowsTabs && char = '\t')
  if after.isAt '#' then
    if blanks.isEmpty then none
    else some ⟨blanks.contains '\t', blanks.contains ' ', after.skipLine⟩
  else some ⟨blanks.contains '\t', blanks.contains ' ', after⟩

/-- The place behind blanks and a comment, with tabs allowed. -/
def skipSpacing (place : Place) : Option Place :=
  (place.spacing true).map Spacing.place

/-- The end of the line, where nothing but blanks and a comment is before it. -/
def lineEnd? (place : Place) : Option Place := do
  let place ← place.skipSpacing
  if place.atLineEnd then some place else none

end Place

end SecondaryIndex.Yaml
