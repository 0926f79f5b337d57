/-
**Points on the earth, circles around them and the distance between them.**

* `Distance.inMeters` converts a length to meters;
* `Point.distance` is the great-circle distance by the haversine formula;
* `totalKey` orders all doubles in a line, also the two zeros and the undefined ones.
-/

namespace SecondaryIndex

/-- A place by longitude and latitude, in degrees. -/
structure Point where
  /-- The longitude. -/
  x : Float
  /-- The latitude. -/
  y : Float
deriving DecidableEq

/-- A unit of length. -/
inductive LengthUnit where
  | meters
  | kilometers
  | miles
  | feet
deriving DecidableEq

namespace LengthUnit

/-- The token for a unit in a command. -/
def token : LengthUnit → String
  | .meters => "m"
  | .kilometers => "km"
  | .miles => "mi"
  | .feet => "ft"

/-- The name of a unit in a document. -/
def name : LengthUnit → String
  | .meters => "Meters"
  | .kilometers => "Kilometers"
  | .miles => "Miles"
  | .feet => "Feet"

/-- How many meters a unit has. -/
def inMeters : LengthUnit → Float
  | .meters => 1.0
  | .kilometers => 1000.0
  | .miles => 1609.34
  | .feet => 0.3048

/-- Every unit. -/
def all : List LengthUnit :=
  [.meters, .kilometers, .miles, .feet]

/-- The unit with a name. -/
def ofName? (name : String) : Option LengthUnit :=
  all.find? (·.name = name)

/-- The unit with a token. -/
def ofToken? (token : String) : Option LengthUnit :=
  all.find? (·.token = token)

end LengthUnit

/-- A length in some unit. -/
structure Distance where
  value : Float
  unit : LengthUnit
deriving DecidableEq

/-- The length in meters. -/
def Distance.inMeters (distance : Distance) : Float :=
  distance.value * distance.unit.inMeters

/-- The points within a distance of a center. -/
structure Circle where
  center : Point
  radius : Distance
deriving DecidableEq

/-- The coordinates are equal as numbers. -/
def Point.sameNumbers (first second : Point) : Bool :=
  first.x == second.x && first.y == second.y

/-- The lengths are equal as numbers, in the same unit. -/
def Distance.sameNumbers (first second : Distance) : Bool :=
  first.value == second.value && first.unit == second.unit

/-- The circles are equal as numbers. -/
def Circle.sameNumbers (first second : Circle) : Bool :=
  first.center.sameNumbers second.center && first.radius.sameNumbers second.radius

/-- The mean radius of the earth. -/
def earthRadiusInMeters : Float := 6372797.560856

/-- An angle in degrees as an angle in radians. -/
def radians (degrees : Float) : Float :=
  degrees * (3.141592653589793 / 180.0)

/-- The great-circle distance in meters. -/
def Point.distance (first second : Point) : Float :=
  let firstLatitude := radians first.y
  let secondLatitude := radians second.y
  let u := ((secondLatitude - firstLatitude) / 2.0).sin
  let v := ((radians second.x - radians first.x) / 2.0).sin
  2.0 * earthRadiusInMeters *
    (u * u + firstLatitude.cos * secondLatitude.cos * v * v).sqrt.asin

/-- The position of a double in the line of all doubles: negative ones first, minus zero before
zero. -/
def totalKey (number : Float) : Int :=
  let bits := number.toBits.toNat
  if bits < 0x8000000000000000 then bits else -(bits - 0x8000000000000000 : Int) - 1

end SecondaryIndex
