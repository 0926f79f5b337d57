/-
**Which predicates name entities directly, and which need index sets.**

A predicate on the id names the entities it asks for, so its values become ids; any other predicate
is kept for the index sets. `Selection.of` sorts a list of predicates into the two parts, or fails
at the first path that the schema does not declare.
-/

import SecondaryIndex.Criteria
import SecondaryIndex.Schema

namespace SecondaryIndex

/-- The two parts of a list of predicates. -/
structure Selection where
  /-- The ids that predicates on the id ask for. -/
  direct : List Bytes
  /-- The other predicates. -/
  others : List Predicate
deriving DecidableEq

namespace Selection

/-- The parts of a list of predicates; `identify` gives the id for a value. -/
def of (identify : IndexValue → Bytes) (schema : Schema) :
    List Predicate → Except MappingError Selection
  | [] => .ok ⟨[], []⟩
  | predicate :: rest => do
    let property ← schema.resolve predicate.path
    let selection ← of identify schema rest
    if property.isId then
      return { selection with direct := predicate.values.map identify ++ selection.direct }
    else return { selection with others := predicate :: selection.others }

end Selection

end SecondaryIndex
