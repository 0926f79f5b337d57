/-
**The tokens of a YAML text, in order.**

* a `Lexer` is a place in the text, the tokens that wait there, and what the next ones depend on:
  the columns at which sequences and mappings have started, and the places where a key may have
  started whose colon is still to come;
* `Lexer.fetch?` reads up to the end of the next written token;
* `tokens` is the list of all tokens of a text. It ends with `Token.finish` if the text could be
  read to its end, and before the token that could not be read otherwise.

A token waits as long as it may still turn out to be the start of a key: then the start of the key,
and that of the mapping that it opens, are put before it.
-/

import SecondaryIndex.Yaml.Scalar.Block
import SecondaryIndex.Yaml.Scalar.Quoted
import SecondaryIndex.Yaml.Tag

namespace SecondaryIndex.Yaml

/-- A place where a key may have started. -/
structure KeyStart where
  /-- The token there can be nothing but a key. -/
  isRequired : Bool
  /-- How many tokens stand before. -/
  number : Nat
  /-- How many characters are ahead of it. -/
  ahead : Nat
  line : Nat
  column : Nat

/-- A column from which on the parts of a node stand. -/
structure Margin where
  column : Int
  /-- A sequence or a mapping starts there; else it is only the least column of what follows. -/
  isBlock : Bool

/-- How far into a text its tokens have been read. -/
structure Lexer where
  place : Place
  /-- The tokens that wait. -/
  queue : List Token
  /-- How many tokens have been handed out. -/
  given : Nat
  /-- How many brackets are open. -/
  depth : Nat
  /-- Where a key may have started, outside of brackets and inside each that is open, the innermost
  first. -/
  keys : List (Option KeyStart)
  /-- A key may start here. -/
  allowsKey : Bool
  /-- The margins, the innermost first. -/
  margins : List Margin
  /-- Where a colon may stand that no blank follows, behind a quoted or bracketed node: how many
  characters are ahead there. -/
  adjacent? : Option Nat
  /-- A brace has been opened, or a key has been marked in brackets. -/
  isInBraces : Bool
  /-- For each square bracket that is open, the depth at which braces around a single pair have been
  put into it, if there are any; the innermost first. -/
  pairs : List (Option Nat)

namespace Lexer

/-! ## Part 1: what the tokens depend on -/

/-- The start of a text. -/
def ofString (text : String) : Lexer :=
  ⟨.ofString text, [], 0, 0, [none], true, [], none, false, []⟩

/-- The column at which the innermost node has started. -/
def indent (lexer : Lexer) : Int :=
  (lexer.margins.head?.map Margin.column).getD (-1)

/-- The innermost margin is that of a sequence or a mapping. -/
def isInBlock (lexer : Lexer) : Bool :=
  (lexer.margins.head?.map Margin.isBlock).getD false

/-- A bracket is open. -/
def isInBrackets (lexer : Lexer) : Bool :=
  0 < lexer.depth

/-- One more token waits. -/
def push (lexer : Lexer) (token : Token) : Lexer :=
  { lexer with queue := lexer.queue ++ [token] }

/-- One more token waits, at the place where so many of all tokens stand before it. -/
def insert (lexer : Lexer) (number : Nat) (token : Token) : Lexer :=
  let count := number - lexer.given
  { lexer with queue := lexer.queue.take count ++ token :: lexer.queue.drop count }

/-- The lexer at another place. -/
def moveTo (lexer : Lexer) (place : Place) : Lexer :=
  { lexer with place := place }

/-- A key may start here, or none may. -/
def allowKey (lexer : Lexer) (allows : Bool) : Lexer :=
  { lexer with allowsKey := allows }

/-! ### Keys -/

/-- The innermost place where a key may have started. -/
def key? (lexer : Lexer) : Option KeyStart :=
  lexer.keys.head?.join

/-- The lexer with another innermost place of a key. -/
def setKey (lexer : Lexer) (key : Option KeyStart) : Lexer :=
  { lexer with keys := key :: lexer.keys.drop 1 }

/-- The next token may start a key, if one may start here. -/
def saveKey (lexer : Lexer) : Lexer :=
  if lexer.allowsKey then
    let isRequired :=
      !lexer.isInBrackets && lexer.indent = lexer.place.column && lexer.isInBlock
    lexer.setKey (some ⟨isRequired, lexer.given + lexer.queue.length, lexer.place.ahead,
      lexer.place.line, lexer.place.column⟩)
  else lexer

/-- No key has started; there is no such lexer if one must have. -/
def dropKey? (lexer : Lexer) : Option Lexer :=
  match lexer.key? with
  | some key => if key.isRequired then none else some (lexer.setKey none)
  | none => some (lexer.setKey none)

/-- How many characters a key with its blanks may have. -/
def longestKey : Nat := 1024

/-- The place of a key is too far back: its colon has to stand on its line, outside of brackets. -/
def isStale (lexer : Lexer) (key : KeyStart) : Bool :=
  !lexer.isInBrackets &&
    (key.line < lexer.place.line || lexer.place.ahead + longestKey < key.ahead)

/-- The lexer without places of keys that are too far back; there is no such lexer if a key must
have started at one. -/
def dropStaleKeys? (lexer : Lexer) : Option Lexer :=
  let stale := lexer.keys.filterMap fun key => key.filter lexer.isStale
  if stale.any KeyStart.isRequired then none
  else some { lexer with keys := lexer.keys.map fun key => key.filter (!lexer.isStale ·) }

/-- The first token that waits may turn out to start a key. -/
def isPending (lexer : Lexer) : Bool :=
  lexer.keys.any fun key => key.any fun key => key.number = lexer.given

/-! ### Margins -/

/-- A sequence or a mapping starts at a column, if none has yet. Its start is put before the token
of a number, or behind all. -/
def openBlock (lexer : Lexer) (column : Nat) (number? : Option Nat) (token : Token) : Lexer :=
  if lexer.isInBrackets then lexer
  else
    let lexer :=
      if lexer.indent ≤ column && !lexer.isInBlock then
        { lexer with margins := lexer.margins.drop 1 }
      else lexer
    if lexer.indent < column then
      let lexer := { lexer with margins := ⟨column, true⟩ :: lexer.margins }
      number?.elim (lexer.push token) fun number => lexer.insert number token
    else lexer

/-- What follows stands at least one column further in. -/
def deepen (lexer : Lexer) : Lexer :=
  if !lexer.isInBrackets && lexer.isInBlock then
    { lexer with margins := ⟨lexer.indent + 1, false⟩ :: lexer.margins }
  else lexer

/-- The lexer without margins that no sequence or mapping starts at. -/
def undeepen (lexer : Lexer) : Lexer :=
  { lexer with margins := lexer.margins.dropWhile fun margin => !margin.isBlock }

/-- The sequences and mappings end that start behind a column. -/
def closeBlocks (lexer : Lexer) (column : Int) : Lexer :=
  if lexer.isInBrackets then lexer
  else
    let closed := lexer.margins.takeWhile fun margin => column < margin.column
    { lexer with
      margins := lexer.margins.drop closed.length
      queue := lexer.queue ++ (closed.filter Margin.isBlock).map fun _ => .blockEnd }

/-- Every sequence and mapping ends, and no key may start. -/
def closeAll? (lexer : Lexer) : Option Lexer :=
  ((lexer.closeBlocks (-1)).dropKey?).map fun lexer => lexer.allowKey false

/-! ### Pairs in brackets -/

/-- The colon ahead belongs to a single pair in square brackets. -/
def isAtPair (lexer : Lexer) : Bool :=
  !lexer.pairs.isEmpty && !lexer.isInBraces

/-- The braces around a single pair end, if there are any at this depth. -/
def closePair (lexer : Lexer) (depth : Nat) : Lexer :=
  if lexer.pairs.head? = some (some depth) then
    let lexer := { lexer with isInBraces := false, pairs := none :: lexer.pairs.drop 1 }
    lexer.push .closeBrace
  else lexer

/-- Braces around a single pair start at this depth. -/
def openPair (lexer : Lexer) : Lexer :=
  if lexer.isAtPair then { lexer with pairs := some lexer.depth :: lexer.pairs.drop 1 } else lexer

/-! ## Part 2: between tokens -/

/-- The lexer at the next token. Keys may start on a new line outside of brackets, and before the
column of the innermost node tabs stand on lines only that hold nothing else. -/
def toToken? : Nat → Lexer → Option Lexer
  | 0, lexer => some lexer
  | fuel + 1, lexer =>
    match lexer.place.rest with
    | [] => some lexer
    | char :: _ =>
      if char = '\n' then
        toToken? fuel ((lexer.moveTo lexer.place.next).allowKey
          (lexer.allowsKey || !lexer.isInBrackets))
      else if char = '#' then toToken? fuel (lexer.moveTo lexer.place.skipLine)
      else if char = '\t' && !lexer.margins.isEmpty && lexer.place.isIndenting &&
        lexer.place.column < lexer.indent then do
        let place ← lexer.place.lineEnd?
        toToken? fuel (lexer.moveTo place)
      else if isBlank char then toToken? fuel (lexer.moveTo lexer.place.next)
      else some lexer

/-- The lexer at the next token. -/
def atToken? (lexer : Lexer) : Option Lexer :=
  toToken? lexer.place.ahead lexer

/-! ## Part 3: the tokens one by one -/

/-- The end of the text. -/
def finish? (lexer : Lexer) : Option Lexer := do
  if lexer.keys.any fun key => key.any KeyStart.isRequired then none
  else
    let lexer ← { lexer with keys := lexer.keys.map fun _ => none }.closeAll?
    return lexer.push .finish

/-- A directive. -/
def directive? (lexer : Lexer) : Option Lexer := do
  let lexer ← lexer.closeAll?
  let (token, place) ← lexer.place.directive?
  return (lexer.moveTo place).push token

/-- The mark before a document. -/
def documentStart? (lexer : Lexer) : Option Lexer := do
  let lexer ← lexer.closeAll?
  return (lexer.moveTo (lexer.place.skip 3)).push .documentStart

/-- The mark behind a document; nothing else stands on its line. -/
def documentEnd? (lexer : Lexer) : Option Lexer := do
  let lexer ← lexer.closeAll?
  let place ← (lexer.place.skip 3).lineEnd?
  return (lexer.moveTo place).push .documentEnd

/-- How many brackets may be open. -/
def deepestBracket : Nat := 255

/-- An opening bracket. -/
def open? (lexer : Lexer) (token : Token) : Option Lexer := do
  let lexer := lexer.saveKey.deepen
  let place ← lexer.place.next.skipSpacing
  if lexer.depth < deepestBracket then
    let isBrace := token = Token.openBrace
    let lexer :=
      { lexer with
        depth := lexer.depth + 1
        keys := none :: lexer.keys
        isInBraces := lexer.isInBraces || isBrace
        pairs := if isBrace then lexer.pairs else none :: lexer.pairs }
    return ((lexer.moveTo place).allowKey true).push token
  else none

/-- A closing bracket. -/
def close? (lexer : Lexer) (token : Token) : Option Lexer := do
  if lexer.isInBrackets then
    let lexer ← lexer.dropKey?
    let lexer :=
      if token = .closeBracket then
        let lexer := lexer.closePair lexer.depth
        { lexer with pairs := lexer.pairs.drop 1 }
      else lexer
    let place ← lexer.place.next.skipSpacing
    let lexer :=
      { lexer with depth := lexer.depth - 1, keys := lexer.keys.drop 1, allowsKey := false }
    let adjacent? := if lexer.isInBrackets then some place.ahead else lexer.adjacent?
    return ({ lexer with adjacent? := adjacent? }.moveTo place).push token
  else none

/-- A comma. -/
def comma? (lexer : Lexer) : Option Lexer := do
  let lexer ← lexer.dropKey?
  let lexer := (lexer.allowKey true).closePair lexer.depth
  let place ← lexer.place.next.skipSpacing
  return (lexer.moveTo place).push .comma

/-- The mark of an item. -/
def entry? (lexer : Lexer) : Option Lexer := do
  if lexer.isInBrackets || !lexer.allowsKey then none
  else
    let lexer := lexer.openBlock lexer.place.column none .sequenceStart
    let spacing ← lexer.place.next.spacing true
    if spacing.hasTab && spacing.place.isAtLone '-' then none
    else
      let lexer := lexer.moveTo spacing.place
      let isBare := lexer.place.isAt '\n' || flowMarkAhead lexer.place.rest
      let lexer ← (if isBare then lexer.deepen else lexer).dropKey?
      return (lexer.allowKey true).push .entry

/-- What stands between the mark of a key and the key: spaces, comments and the ends of lines, but
no tabs. Whether there is any, and the place behind it. -/
def keyGap : Nat → Bool → Place → Bool × Place
  | 0, hasSpace, place => (hasSpace, place)
  | fuel + 1, hasSpace, place =>
    if place.isAt ' ' || place.isAt '\n' then keyGap fuel true place.next
    else if place.isAt '#' then keyGap fuel hasSpace place.skipLine
    else (hasSpace, place)

/-- The mark of a key. -/
def markedKey? (lexer : Lexer) : Option Lexer := do
  if !lexer.isInBrackets && !lexer.allowsKey then none
  else
    let lexer :=
      if lexer.isInBrackets then { lexer with isInBraces := true }
      else lexer.openBlock lexer.place.column none .mappingStart
    let lexer ← lexer.dropKey?
    let start := lexer.place.next
    let (hasSpace, place) := keyGap start.ahead false start
    if !hasSpace || place.isAt '\t' then none
    else return ((lexer.allowKey (!lexer.isInBrackets)).moveTo place).push .key

/-- The place behind a colon. Tabs do not part it from a word; only a space among them does. -/
def afterColon? (place : Place) : Option Place :=
  if place.isAt '\t' then do
    let spacing ← place.spacing true
    if !spacing.hasSpace && (spacing.place.rest.head?.map isWordChar).getD false then none
    else some spacing.place
  else some place

/-- The colon behind a key. The start of the key is put before it, where a key may have started, and
so are the starts of the mapping or the pair that the key belongs to. -/
def value? (lexer : Lexer) : Option Lexer := do
  let isPair := lexer.isAtPair
  let line := lexer.place.line
  let column := lexer.place.column
  let key? := lexer.key?
  let place ← afterColon? lexer.place.next
  let lexer := lexer.openPair.moveTo place
  let lexer ←
    match key? with
    | some key =>
      if isPair && key.line < line then none
      else
        let lexer := lexer.insert key.number .key
        let lexer := if isPair then lexer.insert key.number .openBrace else lexer
        let lexer := (lexer.openBlock key.column (some key.number) .mappingStart).deepen
        some ((lexer.setKey none).allowKey false)
    | none =>
      let lexer := if isPair then lexer.push .openBrace else lexer
      if lexer.isInBrackets then some (lexer.allowKey false)
      else if !lexer.allowsKey then none
      else some ((lexer.openBlock column none .mappingStart).deepen.allowKey true)
  return lexer.push .value

/-- A name behind its mark: a name for a node, or the name of an earlier one. -/
def name? (lexer : Lexer) (token : String → Token) : Option Lexer :=
  let lexer := lexer.saveKey.allowKey false
  let (name, place) := lexer.place.next.span isNameChar
  if name.isEmpty then none else some ((lexer.moveTo place).push (token (String.ofList name)))

/-- A tag. -/
def tag? (lexer : Lexer) : Option Lexer := do
  let lexer := lexer.saveKey.allowKey false
  let (token, place) ← lexer.place.tag? lexer.isInBrackets
  return (lexer.moveTo place).push token

/-- A scalar in a block. -/
def block? (lexer : Lexer) : Option Lexer := do
  let lexer := (lexer.saveKey.allowKey true).undeepen
  let (text, place) ← lexer.place.block? lexer.indent
  return (lexer.moveTo place).push (.scalar text false)

/-- A quoted scalar. -/
def quoted? (lexer : Lexer) : Option Lexer := do
  let lexer := lexer.saveKey.allowKey false
  let (text, place) ← lexer.place.quoted? lexer.isInBrackets lexer.indent
  let lexer ← (lexer.moveTo place).atToken?
  return { lexer with adjacent? := some lexer.place.ahead }.push (.scalar text false)

/-- A plain scalar. -/
def plain? (lexer : Lexer) : Option Lexer := do
  let lexer := (lexer.saveKey.allowKey false).undeepen
  let (text, place) ← lexer.place.plain? lexer.isInBrackets (lexer.indent + 1)
  return ((lexer.moveTo place).allowKey place.isIndenting).push (.scalar text true)

/-! ## Part 4: all tokens -/

/-- The token that starts with a character. -/
def tokenAt? (lexer : Lexer) (char : Char) (rest : List Char) : Option Lexer :=
  let isLone := spaceAhead rest
  let isAdjacent := lexer.adjacent? = some lexer.place.ahead
  if char = '[' then lexer.open? .openBracket
  else if char = '\x7b' then lexer.open? .openBrace
  else if char = ']' then lexer.close? .closeBracket
  else if char = '\x7d' then lexer.close? .closeBrace
  else if char = ',' then lexer.comma?
  else if char = '-' && isLone then lexer.entry?
  else if char = '?' && isLone then lexer.markedKey?
  else if char = ':' && isLone then lexer.value?
  else if char = ':' && lexer.isInBrackets && isAdjacent then lexer.value?
  else if char = ':' && lexer.isInBrackets && flowMarkAhead rest then
    if rest.head? = some '[' ∨ rest.head? = some '\x7b' then none else lexer.value?
  else if char = '*' then lexer.name? .reference
  else if char = '&' then lexer.name? .anchor
  else if char = '!' then lexer.tag?
  else if (char = '|' || char = '>') && !lexer.isInBrackets then lexer.block?
  else if char = '\'' || char = '"' then lexer.quoted?
  else if "%@`".toList.contains char then none
  else lexer.plain?

/-- The lexer behind the next token that is written. Inside brackets, the marks that end an item may
stand before the column of the innermost node. -/
def fetch? (lexer : Lexer) : Option Lexer := do
  let lexer ← lexer.atToken?
  let lexer ← lexer.dropStaleKeys?
  let lexer := lexer.closeBlocks lexer.place.column
  match lexer.place.rest with
  | [] => lexer.finish?
  | char :: rest =>
    let isFirst := lexer.place.column = 0
    if isFirst && char = '%' then lexer.directive?
    else if isFirst && tripleAhead '-' lexer.place.rest then lexer.documentStart?
    else if isFirst && tripleAhead '.' lexer.place.rest then lexer.documentEnd?
    else if lexer.place.column < lexer.indent && !(lexer.isInBrackets && endsItem char) then none
    else lexer.tokenAt? char rest

/-- The tokens from here on. A token is handed out as soon as it cannot be the start of a key. -/
def tokens : Nat → Lexer → List Token
  | 0, _ => []
  | fuel + 1, lexer =>
    match lexer.queue with
    | [] => (lexer.fetch?.map (tokens fuel)).getD []
    | token :: queue =>
      match lexer.dropStaleKeys? with
      | none => []
      | some lexer =>
        if lexer.isPending then (lexer.fetch?.map (tokens fuel)).getD []
        else if token = .finish then [token]
        else token :: tokens fuel { lexer with queue := queue, given := lexer.given + 1 }

end Lexer

/-- The tokens of a text. -/
def tokens (text : String) : List Token :=
  let lexer := Lexer.ofString text
  lexer.tokens (8 * lexer.place.ahead + 16)

end SecondaryIndex.Yaml
