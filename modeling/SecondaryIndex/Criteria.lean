/-
**What to look for.**

* a `Predicate` asks for one of some values at a path;
* `Criteria` holds a group of predicates to be met together, a group of which one is enough, and at
  most one `Near`;
* adding a predicate twice to a group changes nothing; `Criteria.same` compares the groups as sets.
-/

import SecondaryIndex.Collections.InsertionSet
import SecondaryIndex.Geo
import SecondaryIndex.IndexValue

namespace SecondaryIndex

/-- A path and the values asked for. -/
structure Predicate where
  path : String
  values : List IndexValue
deriving DecidableEq

/-- A path whose position has to lie within a circle. -/
structure Near where
  path : String
  circle : Circle
deriving DecidableEq

/-- The criteria of a query. -/
structure Criteria where
  /-- Predicates to be met together. -/
  all : InsertionSet Predicate
  /-- Predicates of which one is enough. -/
  any : InsertionSet Predicate
  near? : Option Near

namespace Criteria

/-- The criteria that ask for nothing. -/
def empty : Criteria :=
  ⟨∅, ∅, none⟩

/-- The criteria with a further predicate to be met. -/
def withAll (criteria : Criteria) (predicate : Predicate) : Criteria :=
  { criteria with all := criteria.all.insert predicate }

/-- The criteria with a further predicate that is enough. -/
def withAny (criteria : Criteria) (predicate : Predicate) : Criteria :=
  { criteria with any := criteria.any.insert predicate }

/-- The criteria with a circle, in place of any earlier one. -/
def withNear (criteria : Criteria) (near : Near) : Criteria :=
  { criteria with near? := some near }

/-- The criteria ask for nothing. -/
def isEmpty (criteria : Criteria) : Bool :=
  criteria.all.isEmpty && criteria.any.isEmpty && criteria.near?.isNone

/-- The criteria ask for the same: equal groups in whatever order, and circles with equal
numbers. -/
def same (first second : Criteria) : Bool :=
  first.all.sameMembers second.all && first.any.sameMembers second.any &&
    (match first.near?, second.near? with
      | none, none => true
      | some first, some second =>
        first.path == second.path && first.circle.sameNumbers second.circle
      | _, _ => false)

end Criteria

end SecondaryIndex
