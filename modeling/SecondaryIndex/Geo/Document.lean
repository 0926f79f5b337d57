/-
**Points and distances in JSON documents.**

* a point is a record of two numbers, a distance a record of a number and the name of its unit;
* `Point.ofJson?` and `Distance.ofJson?` read them, `toJson` writes them.
-/

import SecondaryIndex.Geo
import SecondaryIndex.Json.Shape

namespace SecondaryIndex

/-- The members of a point. -/
def Point.shape : Json.Shape :=
  .record "Point" [("x", .double), ("y", .double)] []

/-- The names of the units. -/
def LengthUnit.shape : Json.Shape :=
  .choice "Metric" (LengthUnit.all.map LengthUnit.name)

/-- The members of a distance. -/
def Distance.shape : Json.Shape :=
  .record "Distance" [("value", .double), ("metric", LengthUnit.shape)] []

/-- The point that a JSON value describes. -/
def Point.ofJson? (value : Json) : Option Point :=
  match Point.shape.read value with
  | .ok (.object [("x", .number (.double x)), ("y", .number (.double y))]) => some ⟨x, y⟩
  | _ => none

/-- A point as a JSON value. -/
def Point.toJson (point : Point) : Json :=
  .object [("x", .number (.double point.x)), ("y", .number (.double point.y))]

/-- The unit that a JSON value names. -/
def LengthUnit.ofJson? (value : Json) : Option LengthUnit :=
  match LengthUnit.shape.read value with
  | .ok (.text name) => LengthUnit.ofName? name
  | _ => none

/-- The name of a unit as a JSON value. -/
def LengthUnit.toJson (unit : LengthUnit) : Json :=
  .text unit.name

/-- The distance that a JSON value describes. -/
def Distance.ofJson? (value : Json) : Option Distance :=
  match Distance.shape.read value with
  | .ok (.object [("value", .number (.double value)), ("metric", .text name)]) =>
    (LengthUnit.ofName? name).map (⟨value, ·⟩)
  | _ => none

/-- A distance as a JSON value. -/
def Distance.toJson (distance : Distance) : Json :=
  .object [("value", .number (.double distance.value)), ("metric", distance.unit.toJson)]

end SecondaryIndex
