/-
**Scalars in blocks: lines that are indented alike.**

Behind the mark of a block stand signs: how far it is indented, and what becomes of the line breaks
at its end. A literal block keeps its line breaks. A folded one folds those between two lines that
do not start with a blank.

* `Place.blockHeader?` reads the signs, `Place.blockIndent` finds out how far the block is indented;
* `Place.blockLines` reads the lines, and `Place.block?` all of the scalar.
-/

import SecondaryIndex.Yaml.Scalar.Plain

namespace SecondaryIndex.Yaml

/-- What becomes of the line breaks at the end of a block. -/
inductive Chomp where
  /-- All are lost. -/
  | strip
  /-- One is kept. -/
  | clip
  /-- All are kept. -/
  | keep
deriving DecidableEq

/-- The signs behind the mark of a block. -/
structure BlockHeader where
  chomp : Chomp
  /-- How much further than its node the block is indented, where it says so. -/
  step? : Option Nat

/-- The line breaks before a line of a block. -/
structure BlockGap where
  /-- A line of the block has ended. -/
  hasBreak : Bool
  /-- How many empty lines follow. -/
  emptyLines : Nat

/-- The text of line breaks that are kept. -/
def BlockGap.kept (gap : BlockGap) : List Char :=
  (if gap.hasBreak then ['\n'] else []) ++ List.replicate gap.emptyLines '\n'

/-- The text of line breaks between two lines that are folded. -/
def BlockGap.folded (gap : BlockGap) : List Char :=
  if gap.hasBreak then Yaml.folded (gap.emptyLines + 1) else gap.kept

namespace Place

/-! ### The header -/

/-- The sign for the end of a block. -/
def chompSign? (place : Place) : Option (Chomp × Place) :=
  if place.isAt '-' then some (.strip, place.next)
  else if place.isAt '+' then some (.keep, place.next)
  else none

/-- The digit for the indentation of a block; the answer holds nothing if there is none, and there
is no answer if it is zero. -/
def stepSign? (place : Place) : Option (Option Nat × Place) :=
  match place.rest with
  | char :: _ =>
    if char = '0' then none
    else if char.isDigit then some (some (char.toNat - '0'.toNat), place.next)
    else some (none, place)
  | [] => some (none, place)

/-- The signs ahead, in either order; only a comment may follow them on the line. -/
def blockHeader? (place : Place) : Option (BlockHeader × Place) := do
  let (chomp, step?, after) ←
    match place.chompSign? with
    | some (chomp, after) => do
      let (step?, after) ← after.stepSign?
      some (chomp, step?, after)
    | none => do
      let (step?, after) ← place.stepSign?
      if step?.isSome then
        let (chomp, after) := after.chompSign?.getD (.clip, after)
        some (chomp, step?, after)
      else some (.clip, none, after)
  let after ← after.lineEnd?
  return (⟨chomp, step?⟩, after)

/-! ### Indentation -/

/-- The place behind the spaces ahead, of which no more count than up to the column `limit?`. -/
def skipSpaces (limit? : Option Nat) (place : Place) : Place :=
  let spaces := (place.rest.takeWhile (· = ' ')).length
  place.skip (limit?.elim spaces fun limit => min spaces (limit - place.column))

/-- The empty lines ahead and the indentation of the line behind them: how many lines, the largest
column that was reached, and the place. -/
def skipEmptyLines (limit? : Option Nat) : Nat → Nat → Nat → Place → Nat × Nat × Place
  | 0, lines, deepest, place => (lines, deepest, place)
  | fuel + 1, lines, deepest, place =>
    let after := place.skipSpaces limit?
    let deepest := max deepest after.column
    if after.isAt '\n' then skipEmptyLines limit? fuel (lines + 1) deepest after.next
    else (lines, deepest, after)

/-- How far a block is indented, how many empty lines it starts with, and the place behind the
indentation of the first line that is not. The node that it belongs to starts at the column
`indent`. -/
def blockIndent (indent : Int) (step? : Option Nat) (place : Place) : Nat × Nat × Place :=
  let fuel := place.ahead + 1
  match step? with
  | some step =>
    let column := (max indent 0).toNat + step
    let (lines, _, after) := skipEmptyLines (some column) fuel 0 0 place
    (column, lines, after)
  | none =>
    let (lines, deepest, after) := skipEmptyLines none fuel 0 0 place
    (max deepest (indent + 1).toNat, lines, after)

/-! ### Lines -/

/-- The lines of a block that start at a column, from the start of one of them: their text, the line
breaks behind the last of them, and the place behind these. `gap` stands before the first one, and
`isAfterBlank` says that the line before it starts with a blank. -/
def blockLines (isLiteral : Bool) (column : Nat) :
    Nat → Bool → BlockGap → Place → List Char × BlockGap × Place
  | 0, _, gap, place => ([], gap, place)
  | fuel + 1, isAfterBlank, gap, place =>
    let isMark := column = 0 && tripleAhead '.' place.rest
    if place.column ≠ column || place.rest.isEmpty || isMark then ([], gap, place)
    else
      let startsBlank := place.isAt ' ' || place.isAt '\t'
      let isFolded := !isLiteral && !isAfterBlank && !startsBlank
      let joint := if isFolded then gap.folded else gap.kept
      let (line, after) := place.span (· ≠ '\n')
      if after.rest.isEmpty then (joint ++ line, ⟨false, 0⟩, after)
      else
        let (lines, _, next) := skipEmptyLines (some column) after.ahead 0 0 after.next
        let (text, gap, last) := blockLines isLiteral column fuel startsBlank ⟨true, lines⟩ next
        (joint ++ line ++ text, gap, last)

/-- The text of a block that holds no line but `lines` empty ones. `isOpen` says that a line follows
the header. -/
def emptyBlock (chomp : Chomp) (isOpen : Bool) (lines : Nat) : List Char :=
  match chomp with
  | .strip => []
  | .clip => if isOpen then ['\n'] else []
  | .keep => if isOpen then List.replicate (max lines 1) '\n' else []

/-- What a block ends with. `isCut` says that the text ends within its last line. -/
def blockEnding (chomp : Chomp) (gap : BlockGap) (isCut : Bool) : List Char :=
  let last := (if gap.hasBreak then ['\n'] else []) ++ (if isCut then ['\n'] else [])
  match chomp with
  | .strip => []
  | .clip => last
  | .keep => last ++ List.replicate gap.emptyLines '\n'

/-- The block ahead; the node that it belongs to starts at the column `indent`. -/
def block? (indent : Int) (place : Place) : Option (String × Place) := do
  let isLiteral := place.isAt '|'
  let (header, after) ← place.next.blockHeader?
  let start := after.next
  if start.isAt '\t' then none
  else
    let (column, lines, first) := blockIndent indent header.step? start
    if first.rest.isEmpty then
      return (String.ofList (emptyBlock header.chomp (first.line ≠ place.line) lines), first)
    else if first.column < column ∧ indent < first.column then none
    else
      let (text, gap, last) :=
        blockLines isLiteral column (first.ahead + 1) false ⟨false, lines⟩ first
      let isCut := last.rest.isEmpty && decide (max column 1 ≤ last.column)
      return (String.ofList (text ++ blockEnding header.chomp gap isCut), last)

end Place

end SecondaryIndex.Yaml
