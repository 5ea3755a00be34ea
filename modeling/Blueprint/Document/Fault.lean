import Blueprint.Diagram.Flow

/-!
# Malformed documents

A document that cannot be read is refused with the place where reading stopped and the fault found
there. A node of an unknown type is no fault: it is read as a custom node, with a warning.
-/

namespace Blueprint.Document

/-- A place in a document. -/
inductive Place where
  /-- The whole document. -/
  | graph
  /-- Its list of nodes. -/
  | graphNodes
  /-- Its list of edges. -/
  | graphEdges
  /-- A node whose name is not known yet, by its position, counted from zero. -/
  | nodeAt (position : Nat)
  /-- A node. -/
  | node (id : String)
  /-- The record nested in a node. -/
  | nestedNode (id : String)
  /-- A port of a node, by its position on its side. -/
  | port (node : String) (position : Nat)
  /-- The settings of a node. -/
  | settings (node : String)
  /-- An edge whose name is not known yet, by its position. -/
  | edgeAt (position : Nat)
  /-- An edge. -/
  | edge (id : String)
  /-- The record nested in an edge. -/
  | nestedEdge (id : String)
  /-- A variable, by its position. -/
  | declarationAt (position : Nat)
deriving DecidableEq, Repr

/-- How a place is written. -/
def Place.text : Place → String
  | graph => "Graph"
  | graphNodes => "Graph nodes"
  | graphEdges => "Graph edges"
  | nodeAt position => "Node #" ++ toString position
  | node id => "Node " ++ Text.quoted id
  | nestedNode id => "Node " ++ Text.quoted id ++ " blueprintNode"
  | port id position => "Node " ++ Text.quoted id ++ " port #" ++ toString position
  | settings id => "Node " ++ Text.quoted id ++ " properties"
  | edgeAt position => "Edge #" ++ toString position
  | edge id => "Edge " ++ Text.quoted id
  | nestedEdge id => "Edge " ++ Text.quoted id ++ " blueprintEdge"
  | declarationAt position => "Variable #" ++ toString position

/-- What is wrong at a place. -/
inductive Fault where
  /-- Something else than a map. -/
  | notMap (found : Shape)
  /-- Something else than a list. -/
  | notList (found : Shape)
  /-- No name, or none that is a text with characters in it. -/
  | missingId
  /-- Something else than a text under a key. -/
  | notText (key : String)
  /-- An unknown kind of flow. -/
  | unknownFlow (text : String)
  /-- A nested edge without both ends. -/
  | nestedEndsMissing
  /-- An edge without both ends. -/
  | endsMissing
deriving DecidableEq, Repr

/-- How a fault is written. -/
def Fault.text : Fault → String
  | notMap found => "expected a mapping, got " ++ found.name
  | notList found => "expected a list, got " ++ found.name
  | missingId => "missing 'id'"
  | notText key => Text.quoted key ++ " must be a string"
  | unknownFlow text => UnknownFlow.message ⟨.str text⟩
  | nestedEndsMissing => "blueprintEdge needs source and target nodes"
  | endsMissing => "missing source or target node"

/-- The refusal of a document. -/
structure Malformed where
  /-- Where reading stopped. -/
  place : Place
  /-- What is wrong there. -/
  fault : Fault
deriving DecidableEq, Repr

/-- The text of a refusal. -/
def Malformed.message (m : Malformed) : String := m.place.text ++ ": " ++ m.fault.text

/-- A node of a type that neither the palette nor older documents know. -/
structure Warning where
  /-- The name of the type. -/
  typeName : String
  /-- The name of the node. -/
  node : String
deriving DecidableEq, Repr

/-- The text of a warning. -/
def Warning.message (w : Warning) : String :=
  "Unknown node type " ++ Text.quoted w.typeName ++ " on node " ++ Text.quoted w.node ++
    "; loading it as Custom."

end Blueprint.Document
