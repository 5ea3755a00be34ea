/-!
# Roles and categories

A node's role is what analysis takes it for; its category is where an editor lists it. A role has
a category of its own, used for node types that no palette knows.
-/

namespace Blueprint

/-- Where an editor lists a node type. -/
inductive Category where
  /-- Starting, ending and directing execution. -/
  | flow
  /-- Calls and events. -/
  | function
  /-- Declared variables. -/
  | memory
  /-- Arithmetic. -/
  | math
  /-- Comparing values. -/
  | comparison
  /-- Truth values. -/
  | logic
  /-- Talking to the user. -/
  | io
  /-- Everything else. -/
  | other
deriving DecidableEq, Repr

namespace Category

/-- Every category. -/
def all : List Category := [flow, function, memory, math, comparison, logic, io, other]

/-- How a category is written. -/
def text : Category → String
  | flow => "flow"
  | function => "function"
  | memory => "variable"
  | math => "math"
  | comparison => "comparison"
  | logic => "logic"
  | io => "io"
  | other => "other"

/-- The category written as a text. -/
def ofText? (s : String) : Option Category := all.find? (·.text == s)

end Category

/-- What analysis takes a node for. -/
inductive Role where
  /-- Where execution starts. -/
  | entry
  /-- Where execution ends. -/
  | exit
  /-- A step of execution. -/
  | operation
  /-- A declared variable. -/
  | storage
  /-- Reads a declared variable. -/
  | read
  /-- Assigns a declared variable. -/
  | assign
  /-- Anything else. -/
  | custom
deriving DecidableEq, Repr

namespace Role

/-- Every role. -/
def all : List Role := [entry, exit, operation, storage, read, assign, custom]

/-- How a role is written. -/
def text : Role → String
  | entry => "entry"
  | exit => "exit"
  | operation => "operation"
  | storage => "variable"
  | read => "variable_get"
  | assign => "variable_assign"
  | custom => "custom"

/-- The role written as a text. -/
def ofText? (s : String) : Option Role := all.find? (·.text == s)

/-- The category of a role. -/
def category : Role → Category
  | entry | exit => .flow
  | operation => .function
  | storage | read | assign => .memory
  | custom => .other

/-- Whether nodes of a role refer to a declared variable. -/
def refersToVariable : Role → Bool
  | storage | read | assign => true
  | entry | exit | operation | custom => false

end Role

end Blueprint
