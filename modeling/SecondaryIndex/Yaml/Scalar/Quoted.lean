/-
**Quoted scalars.**

Between single quotes, two quotes in a row stand for one. Between double quotes, a backslash starts
an escape, and one at the end of a line joins the next line to it. The ends of other lines are
folded, and the blanks around them are lost. Outside brackets, a line that holds more than the
closing quote is indented further than the node that the scalar belongs to, unless it is joined.
-/

import SecondaryIndex.Text.Digits
import SecondaryIndex.Yaml.Scalar.Plain

namespace SecondaryIndex.Yaml

/-- The character that an escape of one letter stands for. -/
def letterEscape? (letter : Char) : Option Char :=
  [('0', '\x00'), ('a', '\x07'), ('b', '\x08'), ('t', '\t'), ('\t', '\t'), ('n', '\n'),
    ('v', '\x0B'), ('f', '\x0C'), ('r', '\r'), ('e', '\x1B'), (' ', ' '), ('"', '"'), ('/', '/'),
    ('\\', '\\'), ('N', '\u0085'), ('_', '\u00A0'), ('L', '\u2028'), ('P', '\u2029')].lookup letter

/-- How many hexadecimal digits follow the letter of an escape. -/
def escapeWidth? (letter : Char) : Option Nat :=
  [('x', 2), ('u', 4), ('U', 8)].lookup letter

namespace Place

/-- The character of so many hexadecimal digits. -/
def codePoint? (width : Nat) (place : Place) : Option (Char × Place) := do
  let digits := place.rest.take width
  let code ← Text.number? 16 digits
  if digits.length = width ∧ code.isValidChar then return (Char.ofNat code, place.skip width)
  else none

/-- The character of an escape, from behind its backslash. -/
def escape? (place : Place) : Option (Char × Place) := do
  let letter ← place.rest.head?
  match escapeWidth? letter with
  | some width => place.next.codePoint? width
  | none => (letterEscape? letter).map fun char => (char, place.next)

/-- The line breaks and blanks ahead: how many breaks, and the place behind them. Tabs do not count
as indentation. -/
def lineBreaks? (indent : Int) : Nat → Nat → Place → Option (Nat × Place)
  | 0, breaks, place => some (breaks, place)
  | fuel + 1, breaks, place =>
    if place.isAt '\n' then lineBreaks? indent fuel (breaks + 1) place.next
    else if place.isAt '\t' && place.column < indent then none
    else if place.isAt ' ' || place.isAt '\t' then lineBreaks? indent fuel breaks place.next
    else some (breaks, place)

/-- The start of the next line that holds anything, and how many lines have ended before it. The
mark of a document cannot stand there. -/
def nextLine? (indent : Int) (place : Place) : Option (Nat × Place) := do
  let (breaks, after) ← lineBreaks? indent place.ahead 0 place
  if after.column = 0 && after.atMark then none else return (breaks, after)

/-- The text up to the closing quote, and the place behind it. `taken` stands before, in reverse. -/
def quotedText? (quote : Char) (inBrackets : Bool) (indent : Int) :
    Nat → List Char → Place → Option (List Char × Place)
  | 0, _, _ => none
  | fuel + 1, taken, place =>
    match place.rest with
    | [] => none
    | char :: rest =>
      if char = quote then
        if quote = '\'' && rest.head? = some '\'' then
          quotedText? quote inBrackets indent fuel (char :: taken) (place.skip 2)
        else some (taken.reverse, place.next)
      else if isSpace char then
        let (blanks, after) := place.span isBlank
        if after.isAt '\n' then do
          let (breaks, next) ← after.nextLine? indent
          if inBrackets || indent < next.column || next.isAt quote then
            quotedText? quote inBrackets indent fuel ((folded breaks).reverse ++ taken) next
          else none
        else quotedText? quote inBrackets indent fuel (blanks.reverse ++ taken) after
      else if char = '\\' && quote = '"' then
        if rest.head? = some '\n' then do
          let (breaks, next) ← (place.skip 2).nextLine? indent
          quotedText? quote inBrackets indent fuel (List.replicate breaks '\n' ++ taken) next
        else do
          let (escaped, next) ← place.next.escape?
          quotedText? quote inBrackets indent fuel (escaped :: taken) next
      else quotedText? quote inBrackets indent fuel (char :: taken) place.next

/-- What may follow a quoted scalar is ahead: the end of the line, a colon behind a key, and inside
brackets what ends an item. Outside brackets, a key starts and ends on the same line. -/
def endsQuoted (inBrackets isSameLine : Bool) (place : Place) : Bool :=
  place.atLineEnd || (place.isAt ':' && (inBrackets || isSameLine)) ||
    (inBrackets && place.rest.head?.any endsItem)

/-- The quoted scalar ahead; the node that it belongs to starts at the column `indent`. -/
def quoted? (inBrackets : Bool) (indent : Int) (place : Place) : Option (String × Place) := do
  let quote ← place.rest.head?
  let (text, after) ← quotedText? quote inBrackets indent (place.ahead + 1) [] place.next
  let after ← after.skipSpacing
  if after.endsQuoted inBrackets (after.line = place.line) then
    return (String.ofList text, after)
  else none

end Place

end SecondaryIndex.Yaml
