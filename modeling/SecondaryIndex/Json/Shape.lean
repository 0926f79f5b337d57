/-
**Record types, and reading them out of JSON values.**

* a `Shape` describes the values of a type: texts, numbers, options, sequences and records;
* `Shape.read` checks a value against a shape and gives its settled form: declared members only, in
  declared order, numbers in the declared form;
* a record is also read from an array of its members in order;
* `Shape.interest` is what of a text has to be read for a value of the shape;
* `ShapeError` is the first thing that does not fit: members are visited in the order of the value,
  and only then are missing ones looked for, in declared order.
-/

import SecondaryIndex.Json.Interest
import SecondaryIndex.Json.Printer
import SecondaryIndex.Text.Quoted

namespace SecondaryIndex.Json

/-- The values of a type. -/
inductive Shape where
  /-- Every value. -/
  | any
  | text
  | boolean
  /-- Integers from zero up that fit so many bits. -/
  | unsigned (bits : Nat)
  | double
  /-- A value or null; a missing member counts as null. -/
  | optional (inner : Shape)
  | sequence (item : Shape)
  /-- One of some names. -/
  | choice (name : String) (variants : List String)
  /-- Named members in declared order; those listed as `hidden` are left out while they are null. -/
  | record (name : String) (fields : List (String × Shape)) (hidden : List String)

/-- Why a value does not have a shape. -/
inductive ShapeError where
  | invalidType (found : Json) (wanted : String)
  | invalidValue (found : Json) (wanted : String)
  | invalidLength (length : Nat) (wanted : String)
  | missingField (name : String)
  | duplicateField (name : String)
  | unknownVariant (found : String) (variants : List String)
deriving DecidableEq

/-- A value as an error names it. -/
def describe : Json → String
  | .null => "null"
  | .boolean value => "boolean `" ++ (if value then "true" else "false") ++ "`"
  | .number (.integer value _) => "integer `" ++ toString value ++ "`"
  | .number (.double value) => "floating point `" ++ (Number.double value).render ++ "`"
  | .text value => "string " ++ Text.quoted value
  | .array _ => "sequence"
  | .object _ => "map"

/-- The wording of a misfit. -/
def ShapeError.message : ShapeError → String
  | .invalidType found wanted => "invalid type: " ++ describe found ++ ", expected " ++ wanted
  | .invalidValue found wanted => "invalid value: " ++ describe found ++ ", expected " ++ wanted
  | .invalidLength length wanted =>
    "invalid length " ++ toString length ++ ", expected " ++ wanted
  | .missingField name => "missing field `" ++ name ++ "`"
  | .duplicateField name => "duplicate field `" ++ name ++ "`"
  | .unknownVariant found variants =>
    "unknown variant `" ++ found ++ "`, expected one of " ++
      ", ".intercalate (variants.map fun variant => "`" ++ variant ++ "`")

namespace Shape

mutual

/-- What is read for a value of the shape: of a record, its declared members only. -/
def interest : Shape → Interest
  | .optional inner => interest inner
  | .sequence item => .each (interest item)
  | .record _ fields _ => .members (interests fields)
  | _ => .everything

/-- What is read for each of the members. -/
def interests : List (String × Shape) → List (String × Interest)
  | [] => []
  | (name, shape) :: rest => (name, interest shape) :: interests rest

end

/-- A null where the shape can do without a value. -/
def default? : Shape → Option Json
  | .optional _ => some .null
  | _ => none

/-- What an error says of a record read from too short an array. -/
def lengthWanted (name : String) (count : Nat) : String :=
  "struct " ++ name ++ " with " ++ toString count ++
    (if count = 1 then " element" else " elements")

/-- The members of a record in declared order, from those that were found. -/
def settle (found : List (String × Json)) :
    List (String × Shape) → Except ShapeError (List (String × Json))
  | [] => .ok []
  | (name, shape) :: rest =>
    match (found.lookup name).or shape.default? with
    | none => .error (.missingField name)
    | some value => (settle found rest).map ((name, value) :: ·)

/-- The text of a variant, if it is one. -/
def variant (variants : List String) (found : String) : Except ShapeError Json :=
  if found ∈ variants then .ok (.text found) else .error (.unknownVariant found variants)

/-- The members that a written record shows. -/
def shown (hidden : List String) (members : List (String × Json)) : List (String × Json) :=
  members.filter fun (name, value) => !(hidden.contains name && value = .null)

mutual

/-- The settled form of a value of the shape. -/
def read : Shape → Json → Except ShapeError Json
  | .any, value => .ok value
  | .text, .text value => .ok (.text value)
  | .text, value => .error (.invalidType value "a string")
  | .boolean, .boolean value => .ok (.boolean value)
  | .boolean, value => .error (.invalidType value "a boolean")
  | .unsigned bits, .number (.integer value fits) =>
    if 0 ≤ value ∧ value < Nat.pow 2 bits then .ok (.number (.integer value fits))
    else .error (.invalidValue (.number (.integer value fits)) ("u" ++ toString bits))
  | .unsigned bits, value => .error (.invalidType value ("u" ++ toString bits))
  | .double, .number (.integer value _) => .ok (.number (.double (Float.ofInt value)))
  | .double, .number (.double value) => .ok (.number (.double value))
  | .double, value => .error (.invalidType value "f64")
  | .optional _, .null => .ok .null
  | .optional inner, value => read inner value
  | .sequence item, .array values => (values.mapM fun value => read item value).map .array
  | .sequence _, value => .error (.invalidType value "a sequence")
  | .choice _ variants, .text found => variant variants found
  | .choice _ variants, .object [(found, value)] =>
    if value = .null then variant variants found else .error (.invalidType value "unit variant")
  | .choice name _, value => .error (.invalidType value ("enum " ++ name))
  | .record _ fields hidden, .object members => do
    let found ← members.foldlM (fun found (name, value) =>
      match readField fields name value with
      | none => .ok found
      | some outcome =>
        if (found.lookup name).isSome then .error (.duplicateField name)
        else outcome.map fun settled => found ++ [(name, settled)]) []
    let settled ← settle found fields
    return .object (shown hidden settled)
  | .record name fields hidden, .array values => do
    let settled ← readPositions (lengthWanted name fields.length) 0 fields values
    if fields.length < values.length then
      .error (.invalidLength values.length "fewer elements in array")
    else return .object (shown hidden settled)
  | .record name _ _, value => .error (.invalidType value ("struct " ++ name))

/-- The settled form of a named member, if the record declares it. -/
def readField : List (String × Shape) → String → Json → Option (Except ShapeError Json)
  | [], _, _ => none
  | (declared, shape) :: rest, name, value =>
    if declared = name then some (read shape value) else readField rest name value

/-- The members of a record from the values of an array, the first standing at `position`. -/
def readPositions (wanted : String) (position : Nat) :
    List (String × Shape) → List Json → Except ShapeError (List (String × Json))
  | [], _ => .ok []
  | _ :: _, [] => .error (.invalidLength position wanted)
  | (name, shape) :: rest, value :: values => do
    let settled ← read shape value
    let others ← readPositions wanted (position + 1) rest values
    return (name, settled) :: others

end

end Shape

end SecondaryIndex.Json
