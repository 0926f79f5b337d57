/-
**Which parts of a text are read, and which are only passed over.**

An `Interest` follows a value: `member` and `item` give the interest in its parts. What is of no
interest still has to be well formed, but its numbers may be too large, its escapes may stand for no
character, and it may nest as deep as it likes.
-/

namespace SecondaryIndex.Json

/-- What of a value is read. -/
inductive Interest where
  | everything
  | nothing
  /-- The members of these names; of an array, the items at their positions. -/
  | members (known : List (String × Interest))
  /-- The items, all alike. -/
  | each (item : Interest)

namespace Interest

/-- Nothing of the value is read. -/
def isNothing : Interest → Bool
  | .nothing => true
  | _ => false

/-- The interest in a member of an object. -/
def member (name : String) : Interest → Interest
  | .nothing => .nothing
  | .members known => (known.lookup name).getD .nothing
  | _ => .everything

/-- The interest in an item of an array. -/
def item (index : Nat) : Interest → Interest
  | .nothing => .nothing
  | .members known => (known[index]?).elim .everything (·.2)
  | .each item => item
  | .everything => .everything

end Interest

end SecondaryIndex.Json
