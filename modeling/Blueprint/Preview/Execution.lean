import Blueprint.Diagram.Control
import Blueprint.Palette.Basic

/-!
# What executes

Execution follows control edges from the entries. Nodes on a control cycle, and all that these lead
to, run in no order that could be told in advance: they are tainted. Of what is executed, the nodes
that assign a variable matter here, and which variables they copy.
-/

namespace Blueprint

namespace Node

/-- The names of ports that take the assigned value although the node does not list them. -/
def valuePortNames : List String := ["value-in", "value"]

/-- Whether a port name is one of the value port names, or ends in one after a hyphen. -/
def namesValuePort (id : String) : Bool :=
  valuePortNames.any fun name => id == name || ("-" ++ name).toList.isSuffixOf id.toList

/-- Whether a data edge that arrives at a port of an assigning node brings the value to assign. An
edge that names no port does; a port of the node does unless it carries control; a port that the
node does not list goes by its name. -/
def takesValueAt (n : Node) : Option String → Bool
  | none => true
  | some id =>
    match n.inputPort? id with
    | some port => !port.isControl
    | none => namesValuePort id

end Node

/-- A diagram with what is executed of it. -/
structure Execution where
  /-- The diagram. -/
  diagram : Diagram
  /-- The names that execution reaches, in breadth-first order from the entries. -/
  order : List String
  /-- The names on control cycles that execution reaches, and all that these lead to. -/
  tainted : List String

namespace Execution

/-- What is executed of a diagram. -/
def of (d : Diagram) : Execution :=
  let order := d.control.reach d.entryIds
  let looping := d.control.looping order
  { diagram := d, order, tainted := d.control.reach (order.filter looping.contains) }

/-- The executed nodes that assign a variable, in the order of execution. -/
def assignments (x : Execution) (v : String) : List Node :=
  (x.order.filterMap x.diagram.node?).filter fun n => n.role = .assign && n.boundTo? == some v

/-- Whether some assignment of a variable is tainted. -/
def isTainted (x : Execution) (v : String) : Bool :=
  (x.assignments v).any fun n => x.tainted.contains n.id

/-- The data edges that bring a value to an assigning node. -/
def feeds (x : Execution) (n : Node) : List Edge :=
  x.diagram.edges.filter fun e => e.isData && e.target == n.id && n.takesValueAt e.ports.2

/-- The variable that an assigning node copies: one edge brings it a value, from a variable node
that is bound to that variable. -/
def copied? (x : Execution) (p : Palette) (n : Node) : Option String :=
  match x.feeds n with
  | [e] =>
    match x.diagram.node? e.source with
    | some source => if p.isVariable source then source.boundTo? else none
    | none => none
  | _ => none

/-- The variables whose values the assignments of a variable copy. -/
def copies (x : Execution) (p : Palette) (v : String) : List String :=
  (x.assignments v).filterMap (x.copied? p)

end Execution

end Blueprint
