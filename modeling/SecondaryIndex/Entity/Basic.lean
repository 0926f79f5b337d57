/-
**Entities: values of a declared type, with an id.**

* an `EntityType` joins the schema that queries see with the shape that stored values must have;
* an `Entity` is the JSON form of a value, or the reason why it has none, with its id;
* `ConversionError` says why an entity does not become a record, or a record no entity.
-/

import SecondaryIndex.Bytes
import SecondaryIndex.IndexValue
import SecondaryIndex.Json.Reader
import SecondaryIndex.Json.Shape
import SecondaryIndex.Schema

namespace SecondaryIndex

/-- A type of entity. -/
structure EntityType where
  schema : Schema
  shape : Json.Shape

/-- An entity. -/
structure Entity where
  /-- The JSON form, or the message of the failure to make one. -/
  form : Except String Json
  id : IndexValue

/-- Why an entity and its record do not fit. -/
inductive ConversionError where
  | serialize (message : String)
  | deserialize (error : Json.ShapeError)
  | notAMap (kind : Json.Kind)
  | invalidField (field : Bytes)
  | invalidValue (field : String) (error : Json.ReadError)
  | notAPoint (path : String)
deriving DecidableEq

/-- The wording of a misfit. -/
def ConversionError.message : ConversionError → String
  | .serialize message => "failed to serialize entity: " ++ message
  | .deserialize error => "failed to deserialize entity: " ++ error.message
  | .notAMap kind => "entity must serialize to a map, got " ++ kind.word
  | .invalidField field => "hash field is not valid UTF-8: " ++ field.quoted
  | .invalidValue field error => "invalid value for field '" ++ field ++ "': " ++ error.message
  | .notAPoint path => "geo indexed property '" ++ path ++ "' does not hold a point"

end SecondaryIndex
