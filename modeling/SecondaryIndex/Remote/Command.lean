/-
**The commands that a remote store understands, and their wire form.**

* a `Command` names what is read or changed; `Command.words` is the list of byte strings that is
  sent;
* coordinates and lengths are sent with the fewest digits that read back, see `numberLayout`.
-/

import SecondaryIndex.Decimal.Layout
import SecondaryIndex.Record

namespace SecondaryIndex.Remote

/-- A command of a remote store. -/
inductive Command where
  /-- The members of a set. -/
  | members (key : Bytes)
  /-- The number of members of a set. -/
  | size (key : Bytes)
  | intersect (keys : List Bytes)
  | union (keys : List Bytes)
  | within (key : Bytes) (circle : Circle) (limit : Option Nat)
  /-- The fields at a key. -/
  | fieldsAt (key : Bytes)
  | addMember (key member : Bytes)
  | removeMember (key member : Bytes)
  /-- Removes whatever is at a key. -/
  | drop (key : Bytes)
  | setFields (key : Bytes) (fields : Fields)
  | setPosition (key member : Bytes) (point : Point)
  | removePosition (key member : Bytes)
deriving DecidableEq

/-- Numbers in commands are written like those of a document, but exponents carry no plus sign. -/
def numberLayout : Decimal.Layout where
  positional := some (-4, 16)
  wholeEnd := ".0"
  exponentSign := ""
  tie := .toEven

/-- A number as a word. -/
def numberWord (number : Float) : Bytes :=
  Bytes.ofString (numberLayout.float number)

/-- The words that bound the number of answers. -/
def limitWords : Option Nat → List Bytes
  | none => []
  | some limit => [Bytes.ofString "COUNT", Bytes.ofString (Nat.repr limit)]

/-- The words of a command. -/
def Command.words : Command → List Bytes
  | .members key => [Bytes.ofString "SMEMBERS", key]
  | .size key => [Bytes.ofString "SCARD", key]
  | .intersect keys => Bytes.ofString "SINTER" :: keys
  | .union keys => Bytes.ofString "SUNION" :: keys
  | .within key circle limit =>
    [Bytes.ofString "GEORADIUS", key, numberWord circle.center.x, numberWord circle.center.y,
      numberWord circle.radius.value, Bytes.ofString circle.radius.unit.token] ++ limitWords limit
  | .fieldsAt key => [Bytes.ofString "HGETALL", key]
  | .addMember key member => [Bytes.ofString "SADD", key, member]
  | .removeMember key member => [Bytes.ofString "SREM", key, member]
  | .drop key => [Bytes.ofString "DEL", key]
  | .setFields key fields =>
    Bytes.ofString "HSET" :: key :: fields.entries.flatMap fun (field, value) => [field, value]
  | .setPosition key member point =>
    [Bytes.ofString "GEOADD", key, numberWord point.x, numberWord point.y, member]
  | .removePosition key member => [Bytes.ofString "ZREM", key, member]

/-- The word that opens a block of commands that are carried out together. -/
def beginWords : List Bytes :=
  [Bytes.ofString "MULTI"]

/-- The word that carries a block out. -/
def commitWords : List Bytes :=
  [Bytes.ofString "EXEC"]

end SecondaryIndex.Remote
