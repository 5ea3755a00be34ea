import Blueprint.Document.Field
import Blueprint.Palette.Standard

/-!
# Node records

A node record gives a name, a type, ports, a label and settings. A record from an older document
may nest a second record, which then gives the type, the ports and the label first. Ports that no
record gives are those of the node's type in the palette.
-/

namespace Blueprint.Document

/-- Reads a port record. -/
def readPort (node : String) (side : Side) (position : Nat) (v : Value) :
    Except Malformed Port := do
  let place := Place.port node position
  let record ← asMap place v
  let dataType := DataType.read (record.spelled ["dataType", "dataKind"])
  let variableId ← optionalText place "variableId" (record.spelled ["variableId"])
  let id ← requireId place record
  pure { id, dataType, side, variableId }

/-- Reads the ports of one side. -/
def readPorts (node : String) (side : Side) (v : Value) : Except Malformed (List Port) := do
  let items ← asList (.node node) v
  readEach (readPort node side) 0 items

/-- Settings from the entries of a map: keys are taken in plain form and brought into snake case,
and of several entries under one key the last one counts. -/
def settingsOfFields (fields : Fields) : Settings :=
  .ofList (fields.map fun entry => (Text.snakeCase entry.1.plain, entry.2))

/-- Reads the settings of a node. -/
def readSettings (node : String) : Value → Except Malformed Settings
  | .null => .ok .empty
  | v => do
    let fields ← asMap (.settings node) v
    pure (settingsOfFields fields)

/-- The role of the nodes of a type: the palette knows it, or else older documents do. -/
def knownRole? (p : Palette) (typeName : String) : Option Role :=
  ((p.find? typeName).map (·.role)).or (Role.ofCoarseType? typeName)

/-- The type name and the role a node is read with. -/
def readType (p : Palette) (node typeName : String) : Load (String × Role) :=
  match knownRole? p typeName with
  | some role => pure (typeName, role)
  | none => do
    Load.warn ⟨typeName, node⟩
    pure ("Custom", .custom)

/-- The part of a node record that describes the node: the nested record if there is one. -/
def detailOf (node : String) (record : Fields) : Except Malformed Fields :=
  match record.spelled ["blueprintNode"] with
  | .null => .ok record
  | nested => asMap (.nestedNode node) nested

/-- The type name a node record states. -/
def statedType (node : String) (record detail : Fields) : Except Malformed String :=
  match ((detail.spelled ["type"]).orElse (record.get "type")).orElse (.str "Custom") with
  | .str typeName => .ok typeName
  | _ => .error ⟨.node node, .notText "type"⟩

/-- The ports of a node: those that the record gives, if it gives any list of ports, else those of
the type. -/
def portsOf (p : Palette) (node typeName : String) (detail : Fields) :
    Except Malformed (List Port × List Port) :=
  if detail.has "inputs" || detail.has "outputs" then do
    let inputs ← readPorts node .input (detail.get "inputs")
    let outputs ← readPorts node .output (detail.get "outputs")
    pure (inputs, outputs)
  else
    match p.find? typeName with
    | some t => .ok (t.inputs, t.outputs)
    | none => .ok ([], [])

/-- The label of a node. -/
def labelOf (record detail : Fields) : String :=
  (((detail.spelled ["customLabel"]).orElse (record.get "label")).orElse
    ((detail.get "label").orElse (.str ""))).plain

/-- The value a node's settings are read from. -/
def settingsValue (record detail : Fields) : Value :=
  match detail.spelled ["properties"] with
  | .null => record.get "properties"
  | v => v

/-- Reads a node record. -/
def readNode (p : Palette) (position : Nat) (v : Value) : Load Node := do
  let record ← asMap (.nodeAt position) v
  let id ← requireId (.nodeAt position) record
  let detail ← detailOf id record
  let stated ← statedType id record detail
  let (typeName, role) ← readType p id stated
  let (inputs, outputs) ← portsOf p id typeName detail
  let settings ← readSettings id (settingsValue record detail)
  pure { id, role, label := labelOf record detail, typeName, inputs, outputs, settings }

end Blueprint.Document
