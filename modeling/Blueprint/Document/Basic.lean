import Blueprint.Document.Edge
import Blueprint.Document.Node

/-!
# Documents

A document is a map with a list of node records and a list of edge records; declared variables come
as records of their own. `readDiagram` and `readDeclarations` read them.
-/

namespace Blueprint.Document

/-- Reads a diagram. Nodes are read before edges. -/
def readDiagram (p : Palette) (v : Value) : Load Diagram := do
  let record ← asMap .graph v
  let nodeItems ← asList .graphNodes (record.get "nodes")
  let nodes ← readEach (readNode p) 0 nodeItems
  let edgeItems ← asList .graphEdges (record.get "edges")
  let edges ← (readEach readEdge 0 edgeItems : Except Malformed (List Edge))
  pure { nodes, edges }

/-- Reads the record of a declared variable. Without a default the variable starts at the zero of
its type, and without a name it is shown by the name that nodes refer to. -/
def readDeclaration (position : Nat) (v : Value) : Except Malformed Declaration := do
  let place := Place.declarationAt position
  let record ← asMap place v
  let id ← requireId place record
  let dataType := DataType.read (record.spelled ["dataType", "dataKind"])
  let default :=
    match record.spelled ["defaultValue"] with
    | .null => dataType.zero
    | v => v
  pure { id, name := ((record.get "name").orElse (.str id)).plain, dataType, default }

/-- The refusal of declared variables. -/
inductive DeclarationsError where
  /-- The value cannot be gone through. -/
  | notIterable (found : Shape)
  /-- A record in it is malformed. -/
  | malformed (m : Malformed)
deriving DecidableEq, Repr

/-- The text of the refusal. -/
def DeclarationsError.message : DeclarationsError → String
  | notIterable found => Text.quoted found.name ++ " object is not iterable"
  | malformed m => m.message

/-- Reads declared variables from the records that a value yields when it is gone through. -/
def readDeclarations (v : Value) : Except DeclarationsError (List Declaration) :=
  match v.elements? with
  | some items => (readEach readDeclaration 0 items).mapError .malformed
  | none => .error (.notIterable v.shape)

end Blueprint.Document
