import Blueprint.Diagram.Flow
import Blueprint.Diagram.Role
import Blueprint.Diagram.Settings

/-!
# Nodes

A node has a role, a type name, ports on either side and settings. A node may be bound to a declared
variable, by a setting or by one of its ports, and its settings may hold a value entered by hand.
-/

namespace Blueprint

/-- A point of a node where edges arrive or leave. -/
structure Port where
  /-- The port's name within its node. -/
  id : String
  /-- What it carries. -/
  dataType : DataType := .any
  /-- The side of the node it is on. -/
  side : Side := .input
  /-- The declared variable it is bound to. -/
  variableId : Option String := none
deriving DecidableEq, Repr

/-- Whether a port carries control. -/
def Port.isControl (p : Port) : Bool := p.dataType.isControl

/-- A step or a value of a diagram. -/
structure Node where
  /-- The node's name; a diagram may hold several nodes of one name, of which the first counts. -/
  id : String
  /-- What analysis takes it for. -/
  role : Role
  /-- The text shown to the user. -/
  label : String := ""
  /-- The name of its type. -/
  typeName : String := "Custom"
  /-- The ports where edges arrive. -/
  inputs : List Port := []
  /-- The ports where edges leave. -/
  outputs : List Port := []
  /-- Its settings. -/
  settings : Settings := .empty

namespace Node

/-- The setting that binds a node to a variable. -/
def variableSetting : String := "variable_id"

/-- The setting that holds a value entered by hand. -/
def valueSetting : String := "input_value"

/-- The setting that says whether the value entered by hand is in force. -/
def overrideSetting : String := "input_value_is_override"

/-- All ports, inputs first. -/
def ports (n : Node) : List Port := n.inputs ++ n.outputs

/-- The input port of a name. -/
def inputPort? (n : Node) (id : String) : Option Port := n.inputs.find? (·.id == id)

/-- The output port of a name. -/
def outputPort? (n : Node) (id : String) : Option Port := n.outputs.find? (·.id == id)

/-- Whether some port carries control. -/
def hasControlPort (n : Node) : Bool := n.ports.any (·.isControl)

/-- A text that is not empty. -/
def nonempty? (s : String) : Option String := if s.isEmpty then none else some s

/-- The variable a node is bound to: the setting if it is a text, else the first port that has
one. Empty texts bind nothing. -/
def boundTo? (n : Node) : Option String :=
  let bySetting := ((n.settings.get? variableSetting).bind Value.text?).bind nonempty?
  bySetting.or (n.ports.findSome? fun p => p.variableId.bind nonempty?)

/-- The value entered by hand, if it is in force. -/
def override? (n : Node) : Option Value :=
  match n.settings.get? overrideSetting with
  | some (.bool true) => n.settings.get? valueSetting
  | _ => none

end Node

end Blueprint
