import Blueprint.Proofs.LegalEdges
import Blueprint.Proofs.ProgramPreview

/-!
# Proofs: data edges and what is found about control

Two diagrams that differ in their data edges only have the same control: the same legal control
edges in the same order, the same control links, and so the same order of execution. What the
inspection finds about control, and which assignments of a variable execute, is made from these
alone. In between stand the issues of data edges, and the position of an edge, which the data edges
before it shift; both are gone from the issues of the rules about control.
-/

namespace Blueprint

/-- The rules about entries, exits and control. -/
def Rule.aboutControl : List Rule :=
  [.entryMissing, .entryMultiple, .exitMissing, .controlFromExit, .controlIntoEntry,
   .noControlFlow, .entryHasIncoming, .entryNoOutgoing, .exitHasOutgoing, .exitNoIncoming,
   .nodeUnreachable, .controlCycle]

/-- The issues of the rules about control. -/
def Report.controlIssues (r : Report) : List Issue :=
  r.issues.filter fun i => i.rule ∈ Rule.aboutControl

/-- Two diagrams of the same nodes and the same control edges. -/
structure Diagram.SameControl (d d' : Diagram) : Prop where
  nodes : d.nodes = d'.nodes
  control : d.edges.filter (·.isControl) = d'.edges.filter (·.isControl)

namespace Inspection

variable {d d' : Diagram} {p : Palette} {e : Edge} {k : Nat}

/-- What an edge that carries data breaks is no rule about control. -/
theorem filter_edge_of_data (h : ¬ e.isControl = true) :
    (edge d k e).filter (fun i => i.rule ∈ Rule.aboutControl) = [] := by
  have hflow : e.flow = .data := by
    cases hf : e.flow with
    | control => exact absurd (by simp [Edge.isControl, hf]) h
    | data => rfl
  have hwithin : Within [.edgeMissingNode, .edgeSelfLoop, .dataTouchesEntry, .dataFromExit]
      (edge d k e) := by
    unfold edge
    split
    · split
      · exact .singleton (by simp [Issue.rule])
      · rw [hflow]
        exact .append (.issueIf (by simp [Issue.rule])) (.issueIf (by simp [Issue.rule]))
    · exact .singleton (by simp [Issue.rule])
  exact hwithin.filter_eq_nil (fun rule => rule ∈ Rule.aboutControl) (by decide)

theorem filter_everyEdge_of_control :
    (everyEdge d).filter (fun i => i.rule ∈ Rule.aboutControl) =
      (d.edges.filter (·.isControl)).flatMap fun e =>
        (edge d 1 e).filter fun i => i.rule ∈ Rule.aboutControl := by
  rw [filter_everyEdge d (fun rule => rule ∈ Rule.aboutControl) rfl]
  exact (flatMap_filter_of_nil fun e _ he => filter_edge_of_data he).symm

theorem filter_overall : (overall d p).filter (fun i => i.rule ∈ Rule.aboutControl) =
    controlPresent d ++ entryEdges d ++ exitEdges d ++ reachability d p ++ cycles d := by
  have hkept : ∀ {rules found}, Within rules found →
      (∀ rule ∈ rules, decide (rule ∈ Rule.aboutControl) = true) →
      found.filter (fun i => i.rule ∈ Rule.aboutControl) = found :=
    fun h hall => h.filter_eq_self (fun rule => rule ∈ Rule.aboutControl) hall
  have hgone : ∀ {rules found}, Within rules found →
      (∀ rule ∈ rules, decide (rule ∈ Rule.aboutControl) = false) →
      found.filter (fun i => i.rule ∈ Rule.aboutControl) = [] :=
    fun h hnone => h.filter_eq_nil (fun rule => rule ∈ Rule.aboutControl) hnone
  unfold overall
  simp only [List.filter_append]
  rw [hkept within_controlPresent (by decide), hgone within_duplicates (by decide),
    hkept within_entryEdges (by decide), hkept within_exitEdges (by decide),
    hkept within_reachability (by decide), hkept within_cycles (by decide),
    hgone within_variableLinks (by decide), List.append_nil, List.append_nil]

end Inspection

namespace Diagram.SameControl

variable {d d' : Diagram} {p : Palette}

theorem controlEnds_eq (h : d.SameControl d') : d.controlEnds = d'.controlEnds := by
  have hcomm : ∀ d : Diagram, d.legalControl = (d.edges.filter (·.isControl)).filter d.isLegal :=
    fun d => List.filter_comm _ _ d.edges
  have hlegal : d.isLegal = d'.isLegal := by
    funext e
    unfold isLegal hasNode
    rw [node?_congr h.nodes]
  unfold controlEnds
  rw [hcomm, hcomm, h.control, hlegal]

theorem controlIssues_eq (h : d.SameControl d') :
    (d.inspect p).controlIssues = (d'.inspect p).controlIssues := by
  show (d.issues p).filter _ = (d'.issues p).filter _
  by_cases hnodes : d.nodes = []
  · have hnodes' : d'.nodes = [] := h.nodes ▸ hnodes
    rw [Inspection.issues_of_no_nodes hnodes, Inspection.issues_of_no_nodes hnodes']
  have hnodes' : d'.nodes ≠ [] := h.nodes ▸ hnodes
  have hcounts : Inspection.counts d = Inspection.counts d' := by
    unfold Inspection.counts
    rw [Inspection.entryCount_congr h.nodes, Inspection.exitCount_congr h.nodes]
  have hedges : (Inspection.everyEdge d).filter (fun i => i.rule ∈ Rule.aboutControl) =
      (Inspection.everyEdge d').filter fun i => i.rule ∈ Rule.aboutControl := by
    rw [Inspection.filter_everyEdge_of_control, Inspection.filter_everyEdge_of_control, h.control]
    simp only [Inspection.edge_congr h.nodes]
  have hends := h.controlEnds_eq
  rw [Inspection.issues_of_nodes hnodes, Inspection.issues_of_nodes hnodes']
  simp only [List.filter_append]
  rw [hcounts, hedges, Inspection.filter_overall, Inspection.filter_overall,
    Inspection.controlPresent_congr h.nodes hends, Inspection.entryEdges_congr h.nodes hends,
    Inspection.exitEdges_congr h.nodes hends, Inspection.reachability_congr h.nodes hends,
    Inspection.cycles_congr h.nodes hends]

theorem entryIds_eq (h : d.SameControl d') : d.entryIds = d'.entryIds := by
  unfold entryIds
  rw [nodesOf_congr h.nodes]

theorem order_eq (h : d.SameControl d') : (Execution.of d).order = (Execution.of d').order := by
  rw [Execution.of_congr h.entryIds_eq (control_congr h.control)]

theorem assignments_eq (h : d.SameControl d') (v : String) :
    (Execution.of d).assignments v = (Execution.of d').assignments v := by
  unfold Execution.assignments
  rw [h.order_eq, Execution.of_diagram, Execution.of_diagram, node?_congr h.nodes]

end Diagram.SameControl

namespace Survey

variable {d : Diagram} {p : Palette} {declarations : List Declaration}

/-- The candidates of a variable do not depend on what its assignments produce. -/
theorem candidates_look {v : String} (hv : ∃ declared ∈ declarations, declared.id = v) :
    ((of d p declarations).table.look v).candidates =
      if d.entryIds = [] then [] else ((Execution.of d).assignments v).map (·.id) := by
  obtain ⟨declared, hfound⟩ : (of d p declarations).Declared v :=
    declared_iff.mpr (mem_declaredIds.mpr hv)
  obtain rfl : declared.id = v := declaration?_id hfound
  rw [table_look_of_declared (ordered_of d p declarations) hfound]
  by_cases hentry : d.entryIds = []
  · have hno : ¬ (of d p declarations).hasEntry = true := by
      simp [hasEntry, Execution.of_diagram, hentry]
    rw [resolve_of_no_entry hno, if_pos hentry]
  · have hsome : (of d p declarations).hasEntry = true := by
      simpa [hasEntry, Execution.of_diagram] using hentry
    rw [candidates_resolve hsome, if_neg hentry, of_execution]

end Survey

/-- **Data edges do not influence what is found about control.** Two diagrams of the same nodes and
the same control edges have the same issues of the rules about control, in the same order, and each
declared variable has the same candidates in both. -/
theorem Diagram.control_findings_of_same_control (p : Palette) (declarations : List Declaration)
    (d d' : Diagram) (hnodes : d.nodes = d'.nodes)
    (hcontrol : d.edges.filter (·.isControl) = d'.edges.filter (·.isControl)) :
    (d.inspect p).controlIssues = (d'.inspect p).controlIssues ∧
    ∀ v, (∃ declared ∈ declarations, declared.id = v) →
      ∃ r r', (d.preview p declarations).lookup v = some r ∧
        (d'.preview p declarations).lookup v = some r' ∧ r.candidates = r'.candidates := by
  have h : d.SameControl d' := ⟨hnodes, hcontrol⟩
  refine ⟨h.controlIssues_eq, fun v hv => ?_⟩
  refine ⟨_, _, Survey.lookup_preview_of_declared hv, Survey.lookup_preview_of_declared hv, ?_⟩
  rw [Survey.candidates_look hv, Survey.candidates_look hv, h.entryIds_eq, h.assignments_eq]

/-- The data edges of the second diagram touch the entry, lead nowhere and lead back, and stand in
front of the control edge that leaves the exit. -/
theorem Diagram.control_findings_between_data :
    let port : Port := { id := "out", variableId := some "x" }
    let nodes : List Node :=
      [{ id := "s", role := .entry }, { id := "a", role := .assign, outputs := [port] },
       { id := "b", role := .operation }, { id := "t", role := .exit }]
    let control (id source target : String) : Edge := { id, source, target }
    let data (id source target : String) : Edge :=
      { id, source, target, statedFlow := some .data }
    let d : Diagram :=
      { nodes, edges := [control "1" "s" "a", control "2" "a" "t", data "4" "b" "a",
          control "3" "t" "b"] }
    let d' : Diagram :=
      { nodes, edges := [data "5" "s" "a", control "1" "s" "a", data "6" "a" "y",
          control "2" "a" "t", data "7" "b" "b", control "3" "t" "b"] }
    let declarations : List Declaration := [{ id := "x", name := "x" }]
    (d.nodes = d'.nodes ∧ d.edges.filter (·.isControl) = d'.edges.filter (·.isControl) ∧
      ∃ declared ∈ declarations, declared.id = "x") ∧
      (d'.issues .empty).map (·.rule) = [.dataTouchesEntry, .edgeMissingNode, .edgeSelfLoop,
        .controlFromExit, .exitHasOutgoing] ∧
      (d.inspect .empty).controlIssues = (d'.inspect .empty).controlIssues ∧
      (d.inspect .empty).controlIssues.map (·.rule) = [.controlFromExit, .exitHasOutgoing] ∧
      ∃ r r', (d.preview .empty declarations).lookup "x" = some r ∧
        (d'.preview .empty declarations).lookup "x" = some r' ∧ r.candidates = r'.candidates := by
  intro port nodes control data d d' declarations
  have hcontrol : d.edges.filter (·.isControl) = d'.edges.filter (·.isControl) := by rfl
  have hv : ∃ declared ∈ declarations, declared.id = "x" :=
    ⟨{ id := "x", name := "x" }, by simp [declarations], rfl⟩
  obtain ⟨hissues, hcandidates⟩ :=
    control_findings_of_same_control .empty declarations d d' rfl hcontrol
  exact ⟨⟨rfl, hcontrol, hv⟩, by cbv, hissues, by cbv, hcandidates "x" hv⟩

end Blueprint
