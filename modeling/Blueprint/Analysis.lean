import Blueprint.Inspection.Basic
import Blueprint.Preview.Basic

/-!
# Analyses on request

A caller may hand over anything where a diagram is wanted. The two analyses refuse what is no
diagram, each under its own name.
-/

namespace Blueprint

/-- What is handed over for analysis. -/
inductive Subject where
  /-- A diagram. -/
  | diagram (d : Diagram)
  /-- Some other value. -/
  | other (v : Value)

/-- The analyses. -/
inductive Analysis where
  /-- Looks for issues. -/
  | inspection
  /-- Looks what variables hold. -/
  | preview
deriving DecidableEq, Repr

/-- What callers know an analysis by. -/
def Analysis.name : Analysis → String
  | inspection => "validate_graph"
  | preview => "resolve_variables"

/-- The refusal to analyse what is no diagram. -/
structure NotADiagram where
  /-- The analysis asked for. -/
  analysis : Analysis
  /-- The sort of what was handed over. -/
  found : Shape
deriving DecidableEq, Repr

/-- The text of the refusal. -/
def NotADiagram.message (e : NotADiagram) : String :=
  e.analysis.name ++ "() expects a Graph, got " ++ e.found.name

namespace Subject

/-- The diagram handed over for an analysis. -/
def diagramFor (analysis : Analysis) : Subject → Except NotADiagram Diagram
  | .diagram d => .ok d
  | .other v => .error ⟨analysis, v.shape⟩

/-- Inspects what was handed over. -/
def inspect (s : Subject) (p : Palette) : Except NotADiagram Report := do
  let d ← s.diagramFor .inspection
  pure (d.inspect p)

/-- Previews the variables of what was handed over. -/
def preview (s : Subject) (p : Palette) (declarations : List Declaration) :
    Except NotADiagram (List (String × Resolution)) := do
  let d ← s.diagramFor .preview
  pure (d.preview p declarations)

end Subject

end Blueprint
