/-
**Plain scalars: texts without quotes.**

A plain scalar is made of runs without blanks. Between two of them stand blanks of one line, which
are kept, or the end of a line, which `folded` turns into a blank or into the empty lines behind it.
The scalar ends where nothing can be a run, before a comment or the mark of a document, and, outside
brackets, before a line that is indented less than the scalar has to be.
-/

import SecondaryIndex.Yaml.Place

namespace SecondaryIndex.Yaml

/-- What some line breaks inside a scalar become. -/
def folded : Nat → List Char
  | 0 => []
  | 1 => [' ']
  | count + 1 => List.replicate count '\n'

/-- A colon that is followed by this stands behind a key. -/
def isValueMark (inBrackets : Bool) (rest : List Char) : Bool :=
  spaceAhead rest || (inBrackets && flowMarkAhead rest)

/-- The run ahead: the characters of a plain scalar up to a blank. -/
def plainRun (inBrackets : Bool) : List Char → List Char
  | [] => []
  | char :: rest =>
    if isSpace char || (inBrackets && isFlowMark char) ||
      (char = ':' && isValueMark inBrackets rest) then []
    else char :: plainRun inBrackets rest

namespace Place

/-- The line breaks and blanks ahead: how many breaks, and the place behind them. Before the column
`least`, tabs stand on lines only that hold nothing else. -/
def emptyLines? (least : Int) : Nat → Nat → Place → Option (Nat × Place)
  | 0, breaks, place => some (breaks, place)
  | fuel + 1, breaks, place =>
    if place.isAt '\n' then emptyLines? least fuel (breaks + 1) place.next
    else if place.isAt '\t' && place.column < least then do
      let place ← place.lineEnd?
      emptyLines? least fuel breaks place
    else if place.isAt ' ' || place.isAt '\t' then emptyLines? least fuel breaks place.next
    else some (breaks, place)

/-- What stands between two runs becomes this text; and the place behind it. -/
def plainGap? (least : Int) (place : Place) : Option (List Char × Place) :=
  let (blanks, after) := place.span isBlank
  if after.isAt '\n' then
    (emptyLines? least after.ahead 0 after).map fun (breaks, after) => (folded breaks, after)
  else some (blanks, after)

/-- The runs ahead, with what joins them; `joint` joins the first to the text before it. -/
def plainRuns? (inBrackets : Bool) (least : Int) :
    Nat → List Char → Place → Option (List Char × Place)
  | 0, _, _ => none
  | fuel + 1, joint, place =>
    if (place.isIndenting && place.atMark) || place.isAt '#' then some ([], place)
    else if inBrackets && place.isAt '-' && flowMarkAhead (place.rest.drop 1) then none
    else
      let run := plainRun inBrackets place.rest
      let shown := if run.isEmpty then [] else joint ++ run
      let after := place.skip run.length
      if after.rest.isEmpty || !spaceAhead after.rest then some (shown, after)
      else do
        let (joint, next) ← after.plainGap? least
        if !inBrackets && next.column < least then some (shown, next)
        else
          let (text, last) ← plainRuns? inBrackets least fuel joint next
          return (shown ++ text, last)

/-- The plain scalar ahead, which has to be indented to the column `least`. -/
def plain? (inBrackets : Bool) (least : Int) (place : Place) : Option (String × Place) := do
  if inBrackets && place.column < least then none
  else
    let (text, after) ← plainRuns? inBrackets least (place.ahead + 1) [] place
    if text.isEmpty then none else return (String.ofList text, after)

end Place

end SecondaryIndex.Yaml
