/-
**Choosing among measured items those that are near enough.**

* `withinReach` keeps the items whose distance is not greater than a radius, in the order they had;
  a distance that is no number is never near enough;
* `nearest` keeps at most so many of them, the nearest first and equally near ones in the order they
  had.
-/

import SecondaryIndex.Geo

namespace SecondaryIndex

variable {α : Type}

/-- The items no farther away than the radius. -/
def withinReach (radius : Float) (measured : List (α × Float)) : List (α × Float) :=
  measured.filter fun item => item.2 ≤ radius

/-- The first items by distance, a number of them at most. -/
def nearest (limit : Nat) (measured : List (α × Float)) : List (α × Float) :=
  (measured.mergeSort fun first second => totalKey first.2 ≤ totalKey second.2).take limit

/-- The items no farther away than the radius; with a limit, the nearest of them. -/
def reached (radius : Float) (limit : Option Nat) (measured : List (α × Float)) : List α :=
  let close := withinReach radius measured
  ((limit.elim close fun count => nearest count close)).map Prod.fst

end SecondaryIndex
