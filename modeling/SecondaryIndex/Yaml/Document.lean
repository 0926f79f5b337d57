/-
**The document that the tokens of a YAML text make up.**

* `Names` holds what has been given a name so far: nodes that can be referred to, and the meanings
  of the handles of tags;
* `node?` reads a node from the front of the tokens;
* `isLast` tells whether what follows a document is no other document. It may be unreadable then;
* `read` reads a text that holds one document.

Nodes are read by fuel. No reader is called more than three times before a token has been passed, so
four for each token are enough.
-/

import SecondaryIndex.Yaml.Node
import SecondaryIndex.Yaml.Token.Lexer

namespace SecondaryIndex.Yaml

/-! ## Part 1: names -/

/-- What has been named in a document so far. -/
structure Names where
  /-- The handles of tags and what they stand for. -/
  handles : List (String × String)
  /-- The names of nodes, with the numbers of these, the latest first. -/
  numbers : List (String × Nat)
  /-- The nodes that have a number and have been read to their ends. -/
  nodes : List (Nat × Node)
  /-- How many names have been given. -/
  count : Nat
  /-- How many times a node has been referred to. -/
  references : Nat
  /-- The sizes of these nodes together. -/
  replayed : Nat

namespace Names

/-- Nothing has been named but the handles of tags. -/
def ofHandles (handles : List (String × String)) : Names :=
  ⟨handles, [], [], 0, 0, 0⟩

/-- The next node that starts has a name: its number. -/
def name (names : Names) (name : String) : Nat × Names :=
  (names.count,
    { names with numbers := (name, names.count) :: names.numbers, count := names.count + 1 })

/-- A node with a number has been read. -/
def keep (names : Names) (number? : Option Nat) (node : Node) : Names :=
  number?.elim names fun number => { names with nodes := (number, node) :: names.nodes }

/-- How large the nodes that are referred to may be together. -/
def largestReplay : Nat := 1000000

/-- The node of a name, which has been read to its end. -/
def refer? (names : Names) (name : String) : Option (Node × Names) := do
  let number ← names.numbers.lookup name
  let node ← names.nodes.lookup number
  let replayed := names.replayed + node.size
  if replayed ≤ largestReplay then
    return (node, { names with references := names.references + 1, replayed := replayed })
  else none

/-- There are not many more references than names. -/
def isBalanced (names : Names) : Bool :=
  names.references < 100 || names.references ≤ 10 * names.count

/-- The tag of two parts. -/
def tag? (names : Names) (handle suffix : String) : Option Tag :=
  (Tag.ofParts? names.handles handle suffix).map fun (start, suffix) => Tag.ofMeaning start suffix

end Names

/-- What stands before a node. -/
structure Properties where
  /-- The number of the node, if it has a name. -/
  number? : Option Nat
  tag? : Option Tag

/-- There is anything before the node. -/
def Properties.isGiven (properties : Properties) : Bool :=
  properties.number?.isSome || properties.tag?.isSome

/-- The properties ahead, a name and a tag in either order, and what follows them. -/
def properties? (names : Names) : List Token → Option (Properties × Names × List Token)
  | .anchor name :: .tag handle suffix :: rest => do
    let (number, names) := names.name name
    let tag ← names.tag? handle suffix
    return (⟨some number, some tag⟩, names, rest)
  | .tag handle suffix :: .anchor name :: rest => do
    let tag ← names.tag? handle suffix
    let (number, names) := names.name name
    return (⟨some number, some tag⟩, names, rest)
  | .anchor name :: rest =>
    let (number, names) := names.name name
    some (⟨some number, none⟩, names, rest)
  | .tag handle suffix :: rest => do
    let tag ← names.tag? handle suffix
    return (⟨none, some tag⟩, names, rest)
  | rest => some (⟨none, none⟩, names, rest)

/-! ## Part 2: nodes -/

/-- How deep sequences and mappings may be nested. -/
def deepestNode : Nat := 2000

/-- One of some tokens is ahead. -/
def isAhead (wanted : List Token) (tokens : List Token) : Bool :=
  tokens.head?.any wanted.contains

/-- What follows the comma that stands between two parts in brackets; no comma stands before the
first of them. -/
def afterComma? (isFirst : Bool) : List Token → Option (List Token)
  | .comma :: rest => if isFirst then some (.comma :: rest) else some rest
  | tokens => if isFirst then some tokens else none

mutual

/-- The node ahead, and what follows it. `room` is how deep it may be nested; `isBlock` lets it be a
sequence or a mapping by indentation, and `takesItems` lets it be a sequence that is indented as the
mapping around it. -/
def node? : Nat → Nat → Bool → Bool → Names → List Token → Option (Node × Names × List Token)
  | 0, _, _, _, _, _ => none
  | fuel + 1, room, isBlock, takesItems, names, tokens =>
    match tokens with
    | .reference name :: rest => do
      let (node, names) ← names.refer? name
      return (node, names, rest)
    | _ => do
      let (properties, names, tokens) ← properties? names tokens
      let tag := properties.tag?.getD .absent
      let empty :=
        if properties.isGiven then some (Node.scalar "" true tag, names, tokens) else none
      let (node, names, rest) ←
        match tokens with
        | [] => none
        | .scalar text isPlain :: rest => some (Node.scalar text isPlain tag, names, rest)
        | .openBracket :: rest => bracketed? fuel room names rest
        | .openBrace :: rest => braced? fuel room names rest
        | .entry :: _ => if takesItems then openItems? fuel room names tokens else empty
        | .sequenceStart :: rest => if isBlock then blockItems? fuel room names rest else empty
        | .mappingStart :: rest => if isBlock then blockEntries? fuel room names rest else empty
        | _ :: _ => empty
      return (node, names.keep properties.number? node, rest)

/-- The node ahead, or nothing where one of the tokens `stops` comes first. -/
def part? : Nat → Nat → Bool → List Token → Names → List Token →
    Option (Node × Names × List Token)
  | 0, _, _, _, _, _ => none
  | fuel + 1, room, isBlock, stops, names, tokens =>
    if isAhead stops tokens then some (.absent, names, tokens)
    else node? fuel room isBlock isBlock names tokens

/-- The value behind its colon, or nothing where there is no colon. -/
def held? : Nat → Nat → Bool → List Token → Names → List Token →
    Option (Node × Names × List Token)
  | 0, _, _, _, _, _ => none
  | fuel + 1, room, isBlock, stops, names, tokens =>
    match tokens with
    | .value :: rest => part? fuel room isBlock stops names rest
    | tokens => some (.absent, names, tokens)

/-- The sequence whose start has been read, and what follows its end. -/
def blockItems? : Nat → Nat → Names → List Token → Option (Node × Names × List Token)
  | fuel + 1, room + 1, names, tokens => do
    let (items, names, rest) ← items? fuel room [.entry, .blockEnd] names tokens
    match rest with
    | .blockEnd :: rest => return (.sequence items, names, rest)
    | _ => none
  | _, _, _, _ => none

/-- The sequence that has no start and no end of its own. -/
def openItems? : Nat → Nat → Names → List Token → Option (Node × Names × List Token)
  | fuel + 1, room + 1, names, tokens => do
    let (items, names, rest) ← items? fuel room [.entry, .key, .value, .blockEnd] names tokens
    return (.sequence items, names, rest)
  | _, _, _, _ => none

/-- The items ahead, each behind its mark. -/
def items? : Nat → Nat → List Token → Names → List Token →
    Option (List Node × Names × List Token)
  | fuel + 1, room, stops, names, .entry :: rest => do
    let (item, names, rest) ←
      if isAhead stops rest then some (.absent, names, rest)
      else node? fuel room true false names rest
    let (items, names, rest) ← items? fuel room stops names rest
    return (item :: items, names, rest)
  | _ + 1, _, _, names, tokens => some ([], names, tokens)
  | 0, _, _, _, _ => none

/-- The mapping whose start has been read, and what follows its end. -/
def blockEntries? : Nat → Nat → Names → List Token → Option (Node × Names × List Token)
  | fuel + 1, room + 1, names, tokens => do
    let (entries, names, rest) ← entries? fuel room names tokens
    match rest with
    | .blockEnd :: rest => return (.mapping entries, names, rest)
    | _ => none
  | _, _, _, _ => none

/-- The entries ahead; a key or its colon may be missing. -/
def entries? : Nat → Nat → Names → List Token →
    Option (List (Node × Node) × Names × List Token)
  | 0, _, _, _ => none
  | fuel + 1, room, names, tokens =>
    let stops := [.key, .value, .blockEnd]
    if isAhead [.key, .value] tokens then do
      let (key, names, rest) ←
        match tokens with
        | .key :: rest => part? fuel room true stops names rest
        | tokens => some (.absent, names, tokens)
      let (value, names, rest) ← held? fuel room true stops names rest
      let (entries, names, rest) ← entries? fuel room names rest
      return ((key, value) :: entries, names, rest)
    else some ([], names, tokens)

/-- The sequence whose bracket has been read, and what follows its other bracket. -/
def bracketed? : Nat → Nat → Names → List Token → Option (Node × Names × List Token)
  | fuel + 1, room + 1, names, tokens => do
    let (items, names, rest) ← flowItems? fuel room true names tokens
    return (.sequence items, names, rest)
  | _, _, _, _ => none

/-- The items up to the bracket. A key that is marked is the only one of a mapping. -/
def flowItems? : Nat → Nat → Bool → Names → List Token →
    Option (List Node × Names × List Token)
  | 0, _, _, _, _ => none
  | fuel + 1, room, isFirst, names, tokens =>
    match tokens with
    | .closeBracket :: rest => some ([], names, rest)
    | tokens => do
      let tokens ← afterComma? isFirst tokens
      match tokens with
      | .closeBracket :: rest => return ([], names, rest)
      | .key :: rest =>
        let (item, names, rest) ← pair? fuel room names rest
        let (items, names, rest) ← flowItems? fuel room false names rest
        return (item :: items, names, rest)
      | tokens =>
        let (item, names, rest) ← node? fuel room false false names tokens
        let (items, names, rest) ← flowItems? fuel room false names rest
        return (item :: items, names, rest)

/-- The mapping of a single key, whose mark has been read. Where the key is missing, the token there
is passed over. -/
def pair? : Nat → Nat → Names → List Token → Option (Node × Names × List Token)
  | fuel + 1, room + 1, names, tokens => do
    let stops := [.comma, .closeBracket]
    let (key, names, rest) ←
      if isAhead (.value :: stops) tokens then some (.absent, names, tokens.drop 1)
      else node? fuel room false false names tokens
    let (value, names, rest) ← held? fuel room false stops names rest
    return (.mapping [(key, value)], names, rest)
  | _, _, _, _ => none

/-- The mapping whose brace has been read, and what follows its other brace. -/
def braced? : Nat → Nat → Names → List Token → Option (Node × Names × List Token)
  | fuel + 1, room + 1, names, tokens => do
    let (entries, names, rest) ← flowEntries? fuel room true names tokens
    return (.mapping entries, names, rest)
  | _, _, _, _ => none

/-- The entries up to the brace. A node that no key starts with has no value. -/
def flowEntries? : Nat → Nat → Bool → Names → List Token →
    Option (List (Node × Node) × Names × List Token)
  | 0, _, _, _, _ => none
  | fuel + 1, room, isFirst, names, tokens =>
    match tokens with
    | .closeBrace :: rest => some ([], names, rest)
    | tokens => do
      let stops := [.comma, .closeBrace]
      let tokens ← afterComma? isFirst tokens
      match tokens with
      | .closeBrace :: rest => return ([], names, rest)
      | tokens =>
        let (key, names, rest) ←
          match tokens with
          | .key :: rest => part? fuel room false (.value :: stops) names rest
          | .value :: _ => some (.absent, names, tokens)
          | tokens => node? fuel room false false names tokens
        let (value, names, rest) ←
          if isAhead [.key, .value] tokens then held? fuel room false stops names rest
          else some (.absent, names, rest)
        let (entries, names, rest) ← flowEntries? fuel room false names rest
        return ((key, value) :: entries, names, rest)

end

/-! ## Part 3: documents -/

/-- The directives ahead: the handles of tags, and what follows. The version is told at most once,
and so is the meaning of each handle. -/
def directives? : Bool → List (String × String) → List Token →
    Option (List (String × String) × List Token)
  | hasVersion, handles, .version :: rest =>
    if hasVersion then none else directives? true handles rest
  | hasVersion, handles, .handle name meaning :: rest =>
    if (handles.lookup name).isSome then none
    else directives? hasVersion ((name, meaning) :: handles) rest
  | _, handles, rest => some (handles, rest)

/-- A directive is ahead. -/
def isAtDirective : List Token → Bool
  | .version :: _ => true
  | .handle .. :: _ => true
  | _ => false

/-- Nothing stands between the mark of a document and these tokens. -/
def isAtBoundary (tokens : List Token) : Bool :=
  isAtDirective tokens || isAhead [.documentStart, .documentEnd, .finish] tokens

/-- Where a document starts: whether a mark stands before it, the handles of its tags, and its
tokens. Behind directives there has to be a mark. -/
def opening? (tokens : List Token) : Option (Bool × List (String × String) × List Token) := do
  let tokens := tokens.dropWhile (· = .documentEnd)
  let (handles, rest) ← directives? false [] tokens
  match rest with
  | .documentStart :: rest => return (true, handles, rest)
  | rest => if isAtDirective tokens then none else return (false, handles, rest)

/-- A node starts here, whether or not it can be read to its end. -/
def startsNode (handles : List (String × String)) (tokens : List Token) : Bool :=
  match tokens with
  | .reference _ :: _ => false
  | tokens =>
    match properties? (.ofHandles handles) tokens with
    | none => false
    | some (properties, _, rest) =>
      match rest with
      | [] => false
      | .scalar .. :: _ => true
      | rest =>
        properties.isGiven ||
          isAhead [.openBracket, .openBrace, .sequenceStart, .mappingStart] rest

/-- A document starts here. -/
def startsDocument (tokens : List Token) : Bool :=
  match opening? tokens with
  | none => false
  | some (isMarked, handles, rest) => (isMarked && isAtBoundary rest) || startsNode handles rest

/-- A document is the last one if this follows it. Its end has to be readable, but only another
document is more than that. -/
def isLast : List Token → Bool
  | [] => false
  | .documentEnd :: rest => !startsDocument rest
  | tokens =>
    !isAtDirective tokens && !(isAhead [.documentStart] tokens && startsDocument tokens)

/-- The tree of the only document that tokens make up. -/
def Node.ofTokens? (tokens : List Token) : Option Node := do
  let (isMarked, handles, tokens) ← opening? tokens
  let names := Names.ofHandles handles
  let fuel := 4 * tokens.length + 8
  let (node, names, rest) ←
    if isMarked && isAtBoundary tokens then some (.absent, names, tokens)
    else node? fuel deepestNode true false names tokens
  if isLast rest && names.isBalanced then return node else none

/-- The tree of a text that holds one document. -/
def read (text : String) : Option Node :=
  Node.ofTokens? (tokens text)

end SecondaryIndex.Yaml
