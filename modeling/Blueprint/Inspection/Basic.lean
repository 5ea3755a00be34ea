import Blueprint.Diagram.Control
import Blueprint.Inspection.Issue
import Blueprint.Palette.Basic

/-!
# Inspection

Inspection goes through the rules in a fixed order and collects every issue. Edges that lack an end
or lead back to their own source are reported and then left out: the other rules look at the legal
edges only. A diagram without nodes breaks one rule and is not looked at further.
-/

namespace Blueprint

namespace Diagram

/-- Whether both ends of an edge are nodes, and two different ones. -/
def isLegal (d : Diagram) (e : Edge) : Bool :=
  d.hasNode e.source && d.hasNode e.target && !e.isLoop

/-- The legal edges. -/
def legalEdges (d : Diagram) : List Edge := d.edges.filter d.isLegal

/-- The legal edges that carry control. -/
def legalControl (d : Diagram) : List Edge := d.legalEdges.filter (·.isControl)

/-- The legal edges that carry data. -/
def legalData (d : Diagram) : List Edge := d.legalEdges.filter (·.isData)

/-- The entry, if there is exactly one. -/
def soleEntry? (d : Diagram) : Option Node :=
  match d.nodesOf .entry with
  | [entry] => some entry
  | _ => none

end Diagram

/-- The members of a list whose key occurs earlier in the list or among the keys seen before. -/
def repeated {α β : Type} [DecidableEq β] (key : α → β) : (seen : List β) → List α → List α
  | _, [] => []
  | seen, x :: xs =>
    if key x ∈ seen then x :: repeated key seen xs else repeated key (key x :: seen) xs

namespace Inspection

/-- An issue, if a condition holds. -/
def issueIf (condition : Bool) (i : Issue) : List Issue := if condition then [i] else []

/-- There is exactly one entry. -/
def entryCount (d : Diagram) : List Issue :=
  match d.nodesOf .entry with
  | [] => [.entryMissing]
  | [_] => []
  | entries => [.entryMultiple entries]

/-- There is an exit. -/
def exitCount (d : Diagram) : List Issue := issueIf (d.nodesOf .exit).isEmpty .exitMissing

/-- Control leaves no exit and arrives at no entry. -/
def controlEdge (e : Edge) (source target : Node) : List Issue :=
  issueIf (source.role = .exit) (.controlFromExit e source) ++
    issueIf (target.role = .entry) (.controlIntoEntry e target)

/-- Data stays clear of entries and leaves no exit. -/
def dataEdge (e : Edge) (source target : Node) : List Issue :=
  issueIf (source.role = .entry || target.role = .entry) (.dataTouchesEntry e) ++
    issueIf (source.role = .exit) (.dataFromExit e)

/-- Both ends of an edge are different nodes, and of roles that suit what it carries. -/
def edge (d : Diagram) (position : Nat) (e : Edge) : List Issue :=
  match d.node? e.source, d.node? e.target with
  | some source, some target =>
    if e.isLoop then [.edgeSelfLoop e]
    else match e.flow with
      | .control => controlEdge e source target
      | .data => dataEdge e source target
  | _, _ => [.edgeMissingNode position e]

/-- The rules for single edges, applied to each in turn. -/
def everyEdge (d : Diagram) : List Issue :=
  (d.edges.zipIdx 1).flatMap fun (e, position) => edge d position e

/-- Among several nodes there is control. -/
def controlPresent (d : Diagram) : List Issue :=
  issueIf (1 < d.nodes.length && d.legalControl.isEmpty) .noControlFlow

/-- What two edges have in common if one repeats the other: their ends, what they carry, and their
ports. -/
def signature (e : Edge) : String × String × Flow × Option String × Option String :=
  (e.source, e.target, e.flow, e.ports)

/-- No legal edge repeats an earlier one. -/
def duplicates (d : Diagram) : List Issue :=
  (repeated signature [] d.legalEdges).map .edgeDuplicate

/-- Control leaves the only entry and does not arrive there. -/
def entryEdges (d : Diagram) : List Issue :=
  match d.soleEntry? with
  | some entry =>
    issueIf (d.legalControl.any (·.target == entry.id)) (.entryHasIncoming entry) ++
      issueIf (!d.legalControl.any (·.source == entry.id)) (.entryNoOutgoing entry)
  | none => []

/-- Control arrives at each exit and does not leave it. -/
def exitEdges (d : Diagram) : List Issue :=
  (d.nodesOf .exit).flatMap fun exit =>
    issueIf (d.legalControl.any (·.source == exit.id)) (.exitHasOutgoing exit) ++
      issueIf (!d.legalControl.any (·.target == exit.id)) (.exitNoIncoming exit)

/-- Whether a node only holds a value and takes no part in execution. -/
def isPureData (p : Palette) (n : Node) : Bool := p.isVariable n && !n.hasControlPort

/-- The nodes that should be reached from an entry and are not. -/
def unreached (d : Diagram) (p : Palette) (entry : Node) : List Node :=
  let reached := (controlLinks d.legalControl).reach [entry.id]
  d.nodes.filter fun n => n.role ≠ .entry && !reached.contains n.id && !isPureData p n

/-- Every node that takes part in execution is reached from the only entry. Without control edges
the question is not asked. -/
def reachability (d : Diagram) (p : Palette) : List Issue :=
  match d.soleEntry? with
  | some entry =>
    if d.legalControl.isEmpty then []
    else match unreached d p entry with
      | [] => []
      | nodes => [.nodeUnreachable nodes]
  | none => []

/-- Control does not go round. -/
def cycles (d : Diagram) : List Issue :=
  match (controlLinks d.legalControl).loop? d.ids with
  | some walk => [.controlCycle walk]
  | none => []

/-- Whether a data edge links two variable nodes in an unusual way. -/
def isUnusualLink (d : Diagram) (p : Palette) (e : Edge) : Bool :=
  match d.node? e.source, d.node? e.target with
  | some source, some target =>
    p.isVariable source && p.isVariable target && !p.bridged source target
  | _, _ => false

/-- Variable nodes are linked in the usual way. -/
def variableLinks (d : Diagram) (p : Palette) : List Issue :=
  (d.legalData.filter (isUnusualLink d p)).map .dataVariableToVariable

end Inspection

open Inspection in
/-- The issues of a diagram, in the order of the rules. -/
def Diagram.issues (d : Diagram) (p : Palette) : List Issue :=
  if d.nodes.isEmpty then [.graphEmpty]
  else
    entryCount d ++ exitCount d ++ everyEdge d ++ controlPresent d ++ duplicates d ++
      entryEdges d ++ exitEdges d ++ reachability d p ++ cycles d ++ variableLinks d p

/-- What an inspection found. -/
structure Report where
  /-- The issues, in the order of the rules. -/
  issues : List Issue

namespace Report

/-- The texts of the issues of a severity. -/
def messages (r : Report) (severity : Severity) : List String :=
  (r.issues.filter (·.severity = severity)).map (·.message)

/-- The texts of the errors. -/
def errors (r : Report) : List String := r.messages .error

/-- The texts of the warnings. -/
def warnings (r : Report) : List String := r.messages .warning

/-- Whether a program can be made of the diagram: there are no errors. -/
def ok (r : Report) : Bool := r.errors.isEmpty

/-- The codes of the issues. -/
def codes (r : Report) : List String := r.issues.map (·.code)

/-- How many of something there are, unless there are none. -/
def countText (n : Nat) (noun : String) : List String :=
  if n = 0 then [] else [toString n ++ " " ++ noun]

/-- The report in a few words. -/
def summary (r : Report) : String :=
  match countText r.errors.length "error(s)" ++ countText r.warnings.length "warning(s)" with
  | [] => "No findings."
  | parts => ", ".intercalate parts ++ "."

end Report

/-- Inspects a diagram. -/
def Diagram.inspect (d : Diagram) (p : Palette) : Report := ⟨d.issues p⟩

end Blueprint
