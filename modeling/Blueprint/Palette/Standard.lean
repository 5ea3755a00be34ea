import Blueprint.Palette.Basic

/-!
# The standard palette

The node types that every editor offers, with the ports their nodes have unless a document says
otherwise, and the coarse type names that older documents use.
-/

namespace Blueprint

namespace Port

/-- An input port. -/
def input (id : String) (dataType : DataType) : Port := { id, dataType, side := .input }

/-- An output port. -/
def output (id : String) (dataType : DataType) : Port := { id, dataType, side := .output }

/-- The port where execution arrives. -/
def execIn : Port := input "exec-in" .control

/-- The port where execution leaves. -/
def execOut : Port := output "exec-out" .control

end Port

namespace NodeType

/-- A type that directs execution. -/
def directing (name : String) (inputs outputs : List Port) : NodeType :=
  { name, role := .custom, category := .flow, inputs := Port.execIn :: inputs, outputs }

/-- A type with two operands and one result. -/
def binary (name : String) (category : Category) (operand result : DataType) : NodeType :=
  { name, role := .custom, category
    inputs := [.input "a" operand, .input "b" operand]
    outputs := [.output "result" result] }

end NodeType

namespace Palette

open Port

/-- Starting, ending and directing execution. -/
def flowTypes : List NodeType :=
  [{ name := "Start", role := .entry, category := .flow, outputs := [execOut] },
   { name := "End", role := .exit, category := .flow, inputs := [execIn] },
   { name := "Return", role := .exit, category := .flow, inputs := [execIn, input "value" .any] },
   .directing "Branch" [input "condition" .bool] [output "true" .control, output "false" .control],
   .directing "ForLoop" [input "first" .int32, input "last" .int32]
     [output "loop-body" .control, output "index" .int32, output "completed" .control],
   .directing "WhileLoop" [input "condition" .bool]
     [output "loop-body" .control, output "completed" .control],
   .directing "DoWhile" [input "condition" .bool]
     [output "loop-body" .control, output "completed" .control],
   .directing "ForEach" [input "array" .array]
     [output "loop-body" .control, output "element" .any, output "index" .int32,
      output "completed" .control],
   .directing "Switch" [input "selection" .int32]
     [output "case-0" .control, output "case-1" .control, output "default" .control],
   .directing "Break" [] [],
   .directing "Continue" [] [],
   .directing "Sequence" [] [output "then-0" .control, output "then-1" .control]]

/-- Calls and events. -/
def functionTypes : List NodeType :=
  [{ name := "Function", role := .operation, category := .function
     inputs := [execIn], outputs := [execOut] },
   { name := "FunctionCall", role := .operation, category := .function
     inputs := [execIn, input "target" .object], outputs := [execOut, output "return" .any] },
   { name := "Event", role := .operation, category := .function, outputs := [execOut] }]

/-- Declared variables, and reading and assigning them. -/
def variableTypes : List NodeType :=
  [{ name := "Variable", role := .storage, category := .memory
     outputs := [output "value" .any] },
   { name := "GetVariable", role := .read, category := .memory
     outputs := [output "value" .any] },
   { name := "SetVariable", role := .assign, category := .memory
     inputs := [execIn, input "value" .any], outputs := [execOut, output "value" .any] }]

/-- Arithmetic, comparison and truth values. -/
def expressionTypes : List NodeType :=
  [.binary "Add" .math .float .float,
   .binary "Subtract" .math .float .float,
   .binary "Multiply" .math .float .float,
   .binary "Divide" .math .float .float,
   .binary "Modulo" .math .int32 .int32,
   .binary "Equal" .comparison .any .bool,
   .binary "NotEqual" .comparison .any .bool,
   .binary "Greater" .comparison .float .bool,
   .binary "Less" .comparison .float .bool,
   .binary "GreaterEqual" .comparison .float .bool,
   .binary "LessEqual" .comparison .float .bool,
   .binary "And" .logic .bool .bool,
   .binary "Or" .logic .bool .bool,
   { name := "Not", role := .custom, category := .logic
     inputs := [input "a" .bool], outputs := [output "result" .bool] }]

/-- Talking to the user, and everything else. -/
def remainingTypes : List NodeType :=
  [{ name := "Print", role := .custom, category := .io
     inputs := [execIn, input "string" .string], outputs := [execOut] },
   { name := "Input", role := .custom, category := .io
     inputs := [execIn, input "prompt" .string], outputs := [execOut, output "value" .string] },
   { name := "Comment", role := .custom, category := .other },
   { name := "Reroute", role := .custom, category := .other
     inputs := [input "in" .any], outputs := [output "out" .any] },
   { name := "Custom", role := .custom, category := .other
     inputs := [execIn], outputs := [execOut] }]

/-- Reading a variable into an assignment is the usual way to copy it. -/
def standardBridges : List (Role × Role) := [(.read, .assign)]

/-- The palette that every editor starts with. -/
def standard : Palette where
  types := flowTypes ++ functionTypes ++ variableTypes ++ expressionTypes ++ remainingTypes
  bridges := standardBridges
  nodup := by decide

end Palette

/-- The role that older documents give to the nodes of a coarse type name. -/
def Role.ofCoarseType? (name : String) : Option Role :=
  [("Start", Role.entry), ("End", .exit), ("Function", .operation), ("Variable", .storage),
   ("Custom", .custom)].lookup name

end Blueprint
