/-
**Settings: which store to use, and under which label.**

* `Settings.ofJson?` reads settings from a JSON value and `toJson` writes them; the member `type`
  tells which store they are for, and members that they do not have are passed over;
* `Settings.ofYaml?` reads them from a YAML text;
* `Settings.open?` makes a session of them, or says why there can be none.
-/

import SecondaryIndex.Json.Shape
import SecondaryIndex.Session
import SecondaryIndex.Settings.Address
import SecondaryIndex.Yaml.Document
import SecondaryIndex.Yaml.Meaning

namespace SecondaryIndex

/-- The settings of a store. -/
inductive Settings where
  | remote (address : String) (label : Option String)
  | inProcess (label : Option String)
deriving DecidableEq

/-- Why there is no store for some settings. -/
structure Unavailable where
  fault : AddressFault
deriving DecidableEq

/-- The wording of why there is no store. -/
def Unavailable.message (unavailable : Unavailable) : String :=
  "Store not available: Redis: Redis store error: " ++ unavailable.fault.message ++
    " - InvalidClientConfig" ++ (unavailable.fault.detail?.map (": " ++ ·)).getD ""

namespace Settings

/-- The word for the store that settings are for. -/
def word : Settings → String
  | .remote .. => "Redis"
  | .inProcess _ => "Memory"

/-- The label of the store, by default one that tells its kind. -/
def label : Settings → String
  | .remote _ label => label.getD "redis"
  | .inProcess label => label.getD "memory"

/-! ### As JSON -/

/-- The members of settings, but for their type. -/
def members : String → Option (List (String × Json.Shape))
  | "Redis" => some [("connection_string", .text), ("label", .optional .text)]
  | "Memory" => some [("label", .optional .text)]
  | _ => none

/-- The settings of settled members. -/
def ofMembers? : List (String × Json) → Option Settings
  | [("connection_string", .text address), ("label", label)] => some (.remote address label.text?)
  | [("label", label)] => some (.inProcess label.text?)
  | _ => none

/-- The settings of a type and the values of its members. -/
def ofTagged? (type : String) (value : List (String × Json.Shape) → Json) : Option Settings := do
  let fields ← members type
  match (Json.Shape.record type fields []).read (value fields) with
  | .ok (.object settled) => ofMembers? settled
  | _ => none

/-- The settings that a JSON value describes; those in an array come in order, the type first, and a
missing one counts as null. -/
def ofJson? : Json → Option Settings
  | .object entries =>
    match entries.filter (·.1 = "type") with
    | [(_, .text type)] => ofTagged? type fun _ => .object (entries.filter (·.1 ≠ "type"))
    | _ => none
  | .array (.text type :: values) =>
    ofTagged? type fun fields =>
      .array (values ++ List.replicate (fields.length - values.length) .null)
  | _ => none

/-- A label, or null. -/
def labelJson (label : Option String) : Json :=
  label.elim .null .text

/-- Settings as a JSON value. -/
def toJson : Settings → Json
  | .remote address label =>
    .object [("type", .text "Redis"), ("connection_string", .text address),
      ("label", labelJson label)]
  | .inProcess label => .object [("type", .text "Memory"), ("label", labelJson label)]

/-! ### As YAML -/

/-- The name of the member that a key means: a text is the name itself, and a number is a position
among the declared members, if there are so many. -/
def memberName? (fields : List (String × Json.Shape)) : Yaml.Meaning → Option String
  | .text name => some name
  | .natural position => fields[position]?.map Prod.fst
  | _ => none

/-- The meaning can be that of a key. -/
def isKey : Yaml.Meaning → Bool
  | .text _ | .natural _ => true
  | _ => false

/-- The key is that of the type. -/
def isTypeKey : Yaml.Meaning → Bool
  | .text name => name = "type"
  | _ => false

/-- The entry tells the type. -/
def tellsType (entry : Yaml.Entry) : Bool :=
  entry.keyMeaning?.any isTypeKey

/-- The members that entries stand for. -/
def namedMembers (entries : List (Yaml.Meaning × Yaml.Meaning))
    (fields : List (String × Json.Shape)) : List (String × Json) :=
  entries.filterMap fun (key, value) =>
    (memberName? fields key).map fun name => (name, value.toJson)

/-- The settings of the entries of a mapping. The type stands as it is written, whatever else it
might mean. -/
def ofEntries? (entries : List Yaml.Entry) : Option Settings := do
  let others ← (entries.filter fun entry => !tellsType entry).mapM Yaml.Entry.meaning?
  match entries.filter tellsType with
  | [entry] =>
    let type ← entry.value.text?
    if others.all fun (key, _) => isKey key then
      ofTagged? type fun fields => .object (namedMembers others fields)
    else none
  | _ => none

/-- The settings that a YAML text describes. -/
def ofYaml? (text : String) : Option Settings := do
  match ← Yaml.read text with
  | .sequence (first :: rest) =>
    let type ← first.text?
    let values ← rest.mapM Yaml.Node.meaning?
    ofJson? (.array (.text type :: values.map Yaml.Meaning.toJson))
  | node =>
    let entries ← node.entries?
    ofEntries? entries

/-! ### In use -/

/-- A session with the store of the settings; `link` is the line to use to a remote one. -/
def open? (settings : Settings) (link : Remote.Link) : Except Unavailable Session :=
  match settings with
  | .inProcess _ => .ok (.inProcess settings.label)
  | .remote address _ =>
    match Address.ofString address with
    | .ok _ => .ok (.remote settings.label link)
    | .error fault => .error ⟨fault⟩

end Settings

end SecondaryIndex
