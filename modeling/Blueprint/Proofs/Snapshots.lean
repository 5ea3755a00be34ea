import Blueprint.Proofs.Agreement
import Blueprint.Proofs.LegalEdges

/-!
# Proofs: edges without their snapshots

The snapshot of an edge only fills gaps: the ports and the flow that the edge does not state. With
the gaps filled the snapshot can go. The inspection then finds issues about other edges (`mapEdge`),
which read the same, and the preview finds the same resolutions. This holds because nothing looks at
an edge except through its name, its ends, its ports and what it carries.
-/

namespace Blueprint

/-! ## Reports that read the same -/

/-- What there is to read of an issue. -/
structure Finding where
  code : String
  severity : Severity
  message : String
  nodes : List String
  edges : List String

def Issue.finding (i : Issue) : Finding := ⟨i.code, i.severity, i.message, i.nodes, i.edges⟩

namespace Report

/-- Two reports that read the same. -/
structure ReadsSame (r r' : Report) : Prop where
  ok : r.ok = r'.ok
  errors : r.errors = r'.errors
  warnings : r.warnings = r'.warnings
  findings : r.issues.map (·.finding) = r'.issues.map (·.finding)
  codes : r.codes = r'.codes
  summary : r.summary = r'.summary

/-- All of a report is made from its findings. -/
theorem readsSame_of_findings {r r' : Report}
    (h : r.issues.map (·.finding) = r'.issues.map (·.finding)) : r.ReadsSame r' := by
  have hmessages : ∀ (r : Report) (severity : Severity), r.messages severity =
      ((r.issues.map (·.finding)).filter (·.severity = severity)).map (·.message) := by
    intro r severity
    unfold messages
    rw [List.filter_map, List.map_map]
    rfl
  have herrors : r.errors = r'.errors := by
    unfold errors
    rw [hmessages, hmessages, h]
  have hwarnings : r.warnings = r'.warnings := by
    unfold warnings
    rw [hmessages, hmessages, h]
  have hcodes : ∀ r : Report, r.codes = (r.issues.map (·.finding)).map (·.code) := by
    intro r
    unfold codes
    rw [List.map_map]
    rfl
  refine ⟨?_, herrors, hwarnings, h, ?_, ?_⟩
  · unfold ok
    rw [herrors]
  · rw [hcodes, hcodes, h]
  · unfold summary
    rw [herrors, hwarnings]

end Report

/-! ## Filling the gaps -/

namespace Edge

/-- An edge that states what its snapshot stated for it. -/
def filled (e : Edge) : Edge :=
  { e with
    sourcePort := e.ports.1
    targetPort := e.ports.2
    statedFlow := e.statedFlow.or (e.snapshot.bind (·.statedFlow))
    snapshot := none }

/-- Filling the gaps changes nothing about what the edge carries. -/
@[simp]
theorem filled_flow (e : Edge) : e.filled.flow = e.flow := by
  simp [filled, flow]

/-- Nor about the ports at which it leaves and arrives. -/
@[simp]
theorem filled_ports (e : Edge) : e.filled.ports = e.ports := by
  simp [filled, ports]

@[simp]
theorem filled_isControl (e : Edge) : e.filled.isControl = e.isControl := by
  simp [isControl]

@[simp]
theorem filled_isData (e : Edge) : e.filled.isData = e.isData := by
  simp [isData]

/-- An edge without a snapshot has no gaps to fill. -/
theorem filled_of_no_snapshot {e : Edge} (h : e.snapshot = none) : e.filled = e := by
  obtain ⟨link, snapshot⟩ := e
  subst h
  simp [filled, ports]

/-- What an edge states itself comes before what its snapshot states. -/
theorem filled_of_snapshot {e : Edge} {s : Link} (h : e.snapshot = some s) :
    e.filled = { e with
      sourcePort := e.sourcePort.or s.sourcePort
      targetPort := e.targetPort.or s.targetPort
      statedFlow := e.statedFlow.or s.statedFlow
      snapshot := none } := by
  simp [filled, ports, h]

end Edge

/-- A diagram whose edges have no gaps that snapshots fill. -/
def Diagram.filled (d : Diagram) : Diagram := { d with edges := d.edges.map Edge.filled }

/-! ## The inspection -/

/-- An issue about other edges. -/
def Issue.mapEdge (f : Edge → Edge) : Issue → Issue
  | edgeMissingNode position e => edgeMissingNode position (f e)
  | edgeSelfLoop e => edgeSelfLoop (f e)
  | controlFromExit e source => controlFromExit (f e) source
  | controlIntoEntry e target => controlIntoEntry (f e) target
  | dataTouchesEntry e => dataTouchesEntry (f e)
  | dataFromExit e => dataFromExit (f e)
  | edgeDuplicate e => edgeDuplicate (f e)
  | dataVariableToVariable e => dataVariableToVariable (f e)
  | i => i

/-- An issue about a filled edge reads like the one about the edge. -/
theorem Issue.finding_mapEdge_filled (i : Issue) : (i.mapEdge Edge.filled).finding = i.finding := by
  cases i with
  | edgeDuplicate e =>
    -- the one text that says what an edge carries
    have hmessage : (Issue.edgeDuplicate e.filled).message = (Issue.edgeDuplicate e).message := by
      show "Duplicate edge " ++ Issue.endsText e ++ " (" ++ e.filled.flow.text ++ ")." = _
      rw [Edge.filled_flow]
      rfl
    show Finding.mk _ _ (Issue.edgeDuplicate e.filled).message _ _ = _
    rw [hmessage]
    rfl
  | _ => rfl

/-- The rules that are not about single edges. -/
def Rule.notAboutEdges : List Rule :=
  [.entryMissing, .entryMultiple, .exitMissing, .noControlFlow, .entryHasIncoming,
   .entryNoOutgoing, .exitHasOutgoing, .exitNoIncoming, .nodeUnreachable, .controlCycle]

/-- Issues that are not about single edges do not change with the edges. -/
theorem Within.map_mapEdge {found : List Issue} (h : Within Rule.notAboutEdges found)
    (f : Edge → Edge) : found.map (·.mapEdge f) = found := by
  have hsame : ∀ i ∈ found, i.mapEdge f = i := by
    intro i hi
    have hrule := h i hi
    cases i with
    | edgeMissingNode | edgeSelfLoop | controlFromExit | controlIntoEntry | dataTouchesEntry
    | dataFromExit | edgeDuplicate | dataVariableToVariable =>
      simp [Issue.rule, Rule.notAboutEdges] at hrule
    | _ => rfl
  exact (List.map_congr_left hsame).trans (List.map_id' found)

/-- A change that keeps the key of each member keeps what is repeated. -/
theorem repeated_map {α β : Type} [DecidableEq β] {key : α → β} {f : α → α}
    (h : ∀ x, key (f x) = key x) (seen : List β) (xs : List α) :
    repeated key seen (xs.map f) = (repeated key seen xs).map f := by
  induction xs generalizing seen with
  | nil => rfl
  | cons x xs ih =>
    rw [List.map_cons, repeated, repeated, h]
    split
    · rw [ih, List.map_cons]
    · rw [ih]

namespace Inspection

variable {d : Diagram} {p : Palette}

/-- Whether an edge is legal depends on its ends, which stay. -/
theorem legalEdges_filled : d.filled.legalEdges = d.legalEdges.map Edge.filled := by
  unfold Diagram.legalEdges
  exact List.filter_map ..

theorem legalControl_filled : d.filled.legalControl = d.legalControl.map Edge.filled := by
  unfold Diagram.legalControl
  rw [legalEdges_filled, List.filter_map]
  simp only [Function.comp_def, Edge.filled_isControl]

/-- The rules about the whole diagram see the same control edges. -/
theorem controlEnds_filled : d.filled.controlEnds = d.controlEnds := by
  unfold Diagram.controlEnds
  rw [legalControl_filled, List.map_map]
  rfl

/-- A filled edge breaks the rules that the edge breaks. -/
theorem edge_filled (k : Nat) (e : Edge) :
    edge d.filled k e.filled = (edge d k e).map (·.mapEdge Edge.filled) := by
  have hif : ∀ (condition : Bool) (i : Issue),
      (issueIf condition i).map (·.mapEdge Edge.filled) =
        issueIf condition (i.mapEdge Edge.filled) := by
    intro condition i
    cases condition <;> rfl
  have hsource : d.filled.node? e.filled.source = d.node? e.source := rfl
  have htarget : d.filled.node? e.filled.target = d.node? e.target := rfl
  have hloop : e.filled.isLoop = e.isLoop := rfl
  unfold edge
  rw [hsource, htarget, hloop, Edge.filled_flow]
  split
  · split
    · rfl
    · split
      · unfold controlEdge
        rw [List.map_append, hif, hif]
        rfl
      · unfold dataEdge
        rw [List.map_append, hif, hif]
        rfl
  · rfl

/-- The edges stay at their positions, so each is told by the same number. -/
theorem everyEdge_filled :
    everyEdge d.filled = (everyEdge d).map (·.mapEdge Edge.filled) := by
  unfold everyEdge
  show ((d.edges.map Edge.filled).zipIdx 1).flatMap _ = _
  rw [List.zipIdx_map, List.flatMap_map, List.map_flatMap]
  exact List.flatMap_congr fun x _ => edge_filled x.2 x.1

/-- Edges are alike by their ends, ports and flow, with or without gaps. -/
theorem duplicates_filled :
    duplicates d.filled = (duplicates d).map (·.mapEdge Edge.filled) := by
  have hsignature : ∀ e : Edge, signature e.filled = signature e := by
    intro e
    unfold signature
    rw [Edge.filled_flow, Edge.filled_ports]
    rfl
  unfold duplicates
  rw [legalEdges_filled, repeated_map hsignature, List.map_map, List.map_map]
  rfl

/-- What an edge carries and where it comes from stays the same. -/
theorem variableLinks_filled :
    variableLinks d.filled p = (variableLinks d p).map (·.mapEdge Edge.filled) := by
  unfold variableLinks Diagram.legalData
  rw [legalEdges_filled, List.filter_map, List.filter_map, List.map_map, List.map_map]
  simp only [Function.comp_def, Edge.filled_isData]
  rfl

/-- The issues of a filled diagram are those of the diagram, about filled edges. -/
theorem issues_filled : d.filled.issues p = (d.issues p).map (·.mapEdge Edge.filled) := by
  by_cases hnodes : d.nodes = []
  · have hnodes' : d.filled.nodes = [] := hnodes
    rw [issues_of_no_nodes hnodes, issues_of_no_nodes hnodes']
    rfl
  have hnodes' : d.filled.nodes ≠ [] := hnodes
  have hcounts : (counts d).map (·.mapEdge Edge.filled) = counts d :=
    (within_counts.mono (by decide)).map_mapEdge _
  have hsame : d.filled.nodes = d.nodes := rfl
  have hends : d.filled.controlEnds = d.controlEnds := controlEnds_filled
  have hoverall : overall d.filled p = (overall d p).map (·.mapEdge Edge.filled) := by
    unfold overall
    simp only [List.map_append]
    rw [controlPresent_congr hsame hends, entryEdges_congr hsame hends,
      exitEdges_congr hsame hends, reachability_congr hsame hends, cycles_congr hsame hends,
      duplicates_filled, variableLinks_filled,
      (within_controlPresent.mono (by decide)).map_mapEdge,
      (within_entryEdges.mono (by decide)).map_mapEdge,
      (within_exitEdges.mono (by decide)).map_mapEdge,
      (within_reachability.mono (by decide)).map_mapEdge,
      (within_cycles.mono (by decide)).map_mapEdge]
  rw [issues_of_nodes hnodes, issues_of_nodes hnodes', List.map_append, List.map_append, hcounts,
    everyEdge_filled, hoverall]
  rfl

end Inspection

/-- The report of a filled diagram reads like that of the diagram. -/
theorem Diagram.inspect_filled (d : Diagram) (p : Palette) :
    (d.filled.inspect p).ReadsSame (d.inspect p) := by
  apply Report.readsSame_of_findings
  show (d.filled.issues p).map _ = (d.issues p).map _
  rw [Inspection.issues_filled, List.map_map]
  exact List.map_congr_left fun i _ => i.finding_mapEdge_filled

/-! ## The preview -/

namespace Execution

variable {d : Diagram} {p : Palette}

/-- The same nodes execute, and the same ones are tainted. -/
theorem of_filled : of d.filled = { of d with diagram := d.filled } := by
  have hcontrol : d.filled.control = d.control := by
    show Links.ofPairs (((d.edges.map Edge.filled).filter (·.isControl)).map _) = _
    rw [List.filter_map, List.map_map]
    simp only [Function.comp_def, Edge.filled_isControl]
    rfl
  exact of_congr rfl hcontrol.symm

theorem assignments_filled (v : String) : (of d.filled).assignments v = (of d).assignments v := by
  rw [of_filled]
  rfl

theorem isTainted_filled (v : String) : (of d.filled).isTainted v = (of d).isTainted v := by
  unfold isTainted
  rw [assignments_filled, of_filled]

/-- The same edges bring values, with their gaps filled. -/
theorem feeds_filled (n : Node) : (of d.filled).feeds n = ((of d).feeds n).map Edge.filled := by
  show (d.edges.map Edge.filled).filter _ = (d.edges.filter _).map Edge.filled
  rw [List.filter_map]
  simp only [Function.comp_def, Edge.filled_isData, Edge.filled_ports]
  rfl

/-- An assignment takes its value from where it did: the source of an edge stays. -/
theorem supply_filled (n : Node) : (of d.filled).supply p n = (of d).supply p n := by
  unfold supply
  rw [feeds_filled]
  match (of d).feeds n with
  | [] => rfl
  | [e] => rfl
  | _ :: _ :: _ => rfl

end Execution

/-- The preview of a filled diagram is that of the diagram. -/
theorem Diagram.preview_filled (d : Diagram) (p : Palette) (declarations : List Declaration) :
    d.filled.preview p declarations = d.preview p declarations :=
  preview_congr rfl Execution.assignments_filled Execution.isTainted_filled
    fun _ n _ => Execution.supply_filled n

end Blueprint
