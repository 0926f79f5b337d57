/-
**The tokens of a YAML text.**

Marks that are written stand there as they come. The starts and ends of sequences and mappings by
indentation, the starts of keys and the braces around a single pair in brackets are not written:
they are put where they belong, so that the nodes can be read from the tokens alone.
-/

namespace SecondaryIndex.Yaml

/-- A token. -/
inductive Token where
  /-- A directive that tells a version. -/
  | version
  /-- A directive that gives a handle of tags its meaning. -/
  | handle (name meaning : String)
  /-- The mark before a document. -/
  | documentStart
  /-- The mark behind a document. -/
  | documentEnd
  /-- The start of a sequence by indentation. -/
  | sequenceStart
  /-- The start of a mapping by indentation. -/
  | mappingStart
  /-- The end of what started by indentation. -/
  | blockEnd
  | openBracket
  | closeBracket
  | openBrace
  | closeBrace
  | comma
  /-- The mark of an item. -/
  | entry
  /-- The start of a key. -/
  | key
  /-- The colon between key and value. -/
  | value
  /-- The name of an earlier node, which stands here again. -/
  | reference (name : String)
  /-- A name for the node that follows. -/
  | anchor (name : String)
  /-- A tag, split behind its handle. -/
  | tag (handle suffix : String)
  | scalar (text : String) (isPlain : Bool)
  /-- The end of the text. -/
  | finish
deriving DecidableEq

end SecondaryIndex.Yaml
