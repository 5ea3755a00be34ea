import Blueprint.Value.Display

/-!
# Kinds of flow and of data

An edge carries control, which orders execution, or data. A port carries control or data of some
type. Both are read from saved values: an unknown kind of flow is refused, an unknown data type is
taken for the type of any value.
-/

namespace Blueprint

/-- What an edge carries. -/
inductive Flow where
  /-- The order of execution. -/
  | control
  /-- A value. -/
  | data
deriving DecidableEq, Repr

/-- The refusal to read a value as a kind of flow. -/
structure UnknownFlow where
  /-- The value given. -/
  given : Value

/-- The text of the refusal. -/
def UnknownFlow.message (u : UnknownFlow) : String :=
  "Unknown edge kind " ++ u.given.literal

namespace Flow

/-- How a kind of flow is written. -/
def text : Flow → String
  | control => "control"
  | data => "data"

/-- The kind of flow written as a text; control has an older second spelling. -/
def ofText? (s : String) : Option Flow :=
  if s = "control" ∨ s = "execution" then some control
  else if s = "data" then some data
  else none

/-- The kind of flow that a saved value stands for. -/
def read (v : Value) : Except UnknownFlow Flow :=
  match v.text?.bind ofText? with
  | some flow => .ok flow
  | none => .error ⟨v⟩

end Flow

/-- Which side of a node a port is on. -/
inductive Side where
  /-- Edges arrive here. -/
  | input
  /-- Edges leave from here. -/
  | output
deriving DecidableEq, Repr

namespace Side

/-- How a side is written. -/
def text : Side → String
  | input => "input"
  | output => "output"

/-- The side written as a text. -/
def ofText? (s : String) : Option Side := [input, output].find? (·.text == s)

end Side

/-- What a port carries or a variable holds. -/
inductive DataType where
  /-- Control, not a value. -/
  | control
  /-- Truth values. -/
  | bool
  /-- Whole numbers of 32 bits. -/
  | int32
  /-- Whole numbers of 64 bits. -/
  | int64
  /-- Single-precision numbers. -/
  | float
  /-- Double-precision numbers. -/
  | double
  /-- Texts. -/
  | string
  /-- Three coordinates. -/
  | vector
  /-- Objects. -/
  | object
  /-- Arrays. -/
  | array
  /-- Values of any type. -/
  | any
deriving DecidableEq, Repr

namespace DataType

/-- Every data type. -/
def all : List DataType :=
  [control, bool, int32, int64, float, double, string, vector, object, array, any]

/-- How a data type is written. -/
def text : DataType → String
  | control => "execution"
  | bool => "bool"
  | int32 => "int32"
  | int64 => "int64"
  | float => "float"
  | double => "double"
  | string => "string"
  | vector => "vector"
  | object => "object"
  | array => "array"
  | any => "any"

/-- The data type written as a text. Control has a second spelling and objects have two older ones;
an unknown text stands for any value. -/
def ofText (s : String) : DataType :=
  if s = "control" then control
  else if s = "pointer" ∨ s = "class" then object
  else (all.find? (·.text == s)).getD any

/-- The data type that a saved value stands for. -/
def read (v : Value) : DataType :=
  match v.text? with
  | some s => ofText s
  | none => any

/-- Whether a port of this type carries control. -/
def isControl (t : DataType) : Bool := t = control

/-- What a variable of this type holds before anything is assigned to it. -/
def zero : DataType → Value
  | bool => .bool false
  | int32 | int64 | float | double => .int 0
  | string => .str ""
  | vector => .list [.int 0, .int 0, .int 0]
  | control | object | array | any => .null

end DataType

end Blueprint
