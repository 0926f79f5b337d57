/-
**YAML documents as trees.**

* a `Node` is a scalar, a sequence or a mapping whose keys are nodes themselves;
* `Node.size` counts what a node is made of;
* `Node.isSame` tells whether two keys are one.
-/

import SecondaryIndex.Yaml.Tag

namespace SecondaryIndex.Yaml

/-- A YAML tree. -/
inductive Node where
  /-- A text with its tag. If it stands there plainly, it may mean something else. -/
  | scalar (text : String) (isPlain : Bool) (tag : Tag)
  | sequence (items : List Node)
  | mapping (entries : List (Node × Node))

namespace Node

/-- What stands where nothing is written. -/
def absent : Node :=
  .scalar "~" true .absent

instance : Inhabited Node := ⟨absent⟩

mutual

/-- How many scalars, starts and ends a node is made of. -/
def size : Node → Nat
  | .scalar .. => 1
  | .sequence items => sizeItems items + 2
  | .mapping entries => sizeEntries entries + 2

/-- The sizes of the items together. -/
def sizeItems : List Node → Nat
  | [] => 0
  | item :: rest => size item + sizeItems rest

/-- The sizes of the keys and values together. -/
def sizeEntries : List (Node × Node) → Nat
  | [] => 0
  | (key, value) :: rest => size key + size value + sizeEntries rest

end

mutual

/-- Two nodes are one as keys: scalars of one text and tag, plain or not, in the same order. -/
def isSame : Node → Node → Bool
  | .scalar text _ tag, .scalar other _ otherTag => text = other && tag = otherTag
  | .sequence items, .sequence others => isSameItems items others
  | .mapping entries, .mapping others => isSameEntries entries others
  | _, _ => false

/-- The items of two sequences are the same. -/
def isSameItems : List Node → List Node → Bool
  | [], [] => true
  | item :: rest, other :: others => isSame item other && isSameItems rest others
  | _, _ => false

/-- The entries of two mappings are the same. -/
def isSameEntries : List (Node × Node) → List (Node × Node) → Bool
  | [], [] => true
  | (key, value) :: rest, (otherKey, otherValue) :: others =>
    isSame key otherKey && isSame value otherValue && isSameEntries rest others
  | _, _ => false

end

end Node

end SecondaryIndex.Yaml
