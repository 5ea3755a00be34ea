import Blueprint.Diagram.Node

/-!
# Diagrams

A diagram is a list of nodes and a list of directed edges between their ports, in the order in which
they were declared. An edge may leave out its kind of flow and its ports; what it leaves out is
taken from a snapshot of the edge that older documents carry along.
-/

namespace Blueprint

/-- A directed link between two nodes. -/
structure Link where
  /-- The link's name. -/
  id : String
  /-- The node it leaves. -/
  source : String
  /-- The node it arrives at. -/
  target : String
  /-- The port it leaves. -/
  sourcePort : Option String := none
  /-- The port it arrives at. -/
  targetPort : Option String := none
  /-- What it carries, if that was stated. -/
  statedFlow : Option Flow := none
deriving DecidableEq, Repr

/-- An edge of a diagram: a link, with the snapshot that fills its gaps. -/
structure Edge extends Link where
  /-- What an older document recorded of the same edge. -/
  snapshot : Option Link := none
deriving DecidableEq, Repr

namespace Edge

/-- What an edge carries: what it states, else what its snapshot states, else control. -/
def flow (e : Edge) : Flow :=
  (e.statedFlow.or (e.snapshot.bind (·.statedFlow))).getD .control

/-- The port an edge leaves and the port it arrives at, gaps filled from the snapshot. -/
def ports (e : Edge) : Option String × Option String :=
  (e.sourcePort.or (e.snapshot.bind (·.sourcePort)),
   e.targetPort.or (e.snapshot.bind (·.targetPort)))

/-- Whether an edge orders execution. -/
def isControl (e : Edge) : Bool := e.flow = .control

/-- Whether an edge carries a value. -/
def isData (e : Edge) : Bool := e.flow = .data

/-- Whether an edge arrives where it leaves. -/
def isLoop (e : Edge) : Bool := e.source = e.target

end Edge

/-- Nodes and the edges between them. -/
structure Diagram where
  /-- The nodes, in the order of their declaration. -/
  nodes : List Node := []
  /-- The edges, in the order of their declaration. -/
  edges : List Edge := []

namespace Diagram

/-- The node of a name: the first one declared. -/
def node? (d : Diagram) (id : String) : Option Node := d.nodes.find? (·.id == id)

/-- Whether some node has a name. -/
def hasNode (d : Diagram) (id : String) : Bool := (d.node? id).isSome

/-- The nodes that count: of several nodes of one name the first one declared. -/
def firstNodes (d : Diagram) : List Node :=
  (d.nodes.map (·.id)).eraseDups.filterMap d.node?

/-- The nodes of a role. -/
def nodesOf (d : Diagram) (role : Role) : List Node := d.nodes.filter (·.role = role)

/-- A diagram with one more edge. -/
def addEdge (d : Diagram) (e : Edge) : Diagram := { d with edges := d.edges ++ [e] }

/-- The diagram a new document starts with: an entry, one step and an exit. -/
def starter : Diagram where
  nodes :=
    [{ id := "node-start", role := .entry, label := "Start", typeName := "Start",
       outputs := [{ id := "exec-out", dataType := .control, side := .output }] },
     { id := "node-func", role := .operation, label := "Function", typeName := "Function",
       inputs := [{ id := "exec-in", dataType := .control }],
       outputs := [{ id := "exec-out", dataType := .control, side := .output }] },
     { id := "node-end", role := .exit, label := "End", typeName := "End",
       inputs := [{ id := "exec-in", dataType := .control }] }]
  edges :=
    [{ id := "edge-1", source := "node-start", target := "node-func",
       sourcePort := some "exec-out", targetPort := some "exec-in", statedFlow := some .control },
     { id := "edge-2", source := "node-func", target := "node-end",
       sourcePort := some "exec-out", targetPort := some "exec-in", statedFlow := some .control }]

end Diagram

/-- A declared variable. -/
structure Declaration where
  /-- The name that nodes refer to. -/
  id : String
  /-- The name shown to the user. -/
  name : String
  /-- What it holds. -/
  dataType : DataType := .any
  /-- What it holds before anything is assigned to it. -/
  default : Value := .null

end Blueprint
