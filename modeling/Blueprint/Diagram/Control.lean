import Blueprint.Diagram.Basic
import Blueprint.Search.BreadthFirst
import Blueprint.Search.Components
import Blueprint.Search.Loop

/-!
# Control flow

The control edges of a list of edges link node names in the order of the edges. Everything that is
asked about the order of execution (what is reached, where it loops) is asked of these links.
-/

namespace Blueprint

/-- The links that the control edges make between node names. -/
def controlLinks (edges : List Edge) : Links String :=
  .ofPairs ((edges.filter (·.isControl)).map fun e => (e.source, e.target))

namespace Diagram

/-- The names of the nodes, in the order of their declaration. -/
def ids (d : Diagram) : List String := d.nodes.map (·.id)

/-- The links of all control edges of a diagram. -/
def control (d : Diagram) : Links String := controlLinks d.edges

/-- The names of the entries. -/
def entryIds (d : Diagram) : List String := (d.nodesOf .entry).map (·.id)

end Diagram

end Blueprint
