import Blueprint.Proofs.Inspection

/-!
# Proofs: what illegal edges do to an inspection

An edge that lacks an end, or leads back to its own source, breaks a rule of its own and is not
looked at again. Each part of the inspection breaks rules of its own (`Within`), so that picking
issues by their rules picks whole parts. Only the part that looks at edges one by one has to be
taken apart: an illegal edge has one issue there, of the two rules for illegal edges, and a legal
edge has issues of other rules only.
-/

namespace Blueprint

/-- The issues break no other rules than these. -/
def Within (rules : List Rule) (found : List Issue) : Prop := ∀ i ∈ found, i.rule ∈ rules

namespace Within

variable {rules : List Rule} {found : List Issue}

theorem nil : Within rules [] := by
  intro i hi
  simp at hi

theorem singleton {i : Issue} (h : i.rule ∈ rules) : Within rules [i] := by
  intro j hj
  rw [List.mem_singleton] at hj
  rwa [hj]

/-- More rules may be allowed. -/
theorem mono {rules' : List Rule} (h : Within rules found) (hsub : rules ⊆ rules') :
    Within rules' found :=
  fun i hi => hsub (h i hi)

theorem append {xs ys : List Issue} (hx : Within rules xs) (hy : Within rules ys) :
    Within rules (xs ++ ys) := by
  intro i hi
  rcases List.mem_append.mp hi with hi | hi
  · exact hx i hi
  · exact hy i hi

/-- Parts that are made one for each member, such as one for each edge. -/
theorem flatMap {α : Type} {xs : List α} {f : α → List Issue} (h : ∀ x, Within rules (f x)) :
    Within rules (xs.flatMap f) := by
  intro i hi
  obtain ⟨x, -, hi⟩ := List.mem_flatMap.mp hi
  exact h x i hi

theorem map {α : Type} {xs : List α} {f : α → Issue} (h : ∀ x, (f x).rule ∈ rules) :
    Within rules (xs.map f) := by
  intro i hi
  obtain ⟨x, -, rfl⟩ := List.mem_map.mp hi
  exact h x

theorem issueIf {condition : Bool} {i : Issue} (h : i.rule ∈ rules) :
    Within rules (Inspection.issueIf condition i) := by
  cases condition with
  | false => exact nil
  | true => exact singleton h

/-- If the rules of a part are all picked, the part stays whole. -/
theorem filter_eq_self (h : Within rules found) (broken : Rule → Bool)
    (hall : ∀ rule ∈ rules, broken rule = true) :
    found.filter (fun i => broken i.rule) = found := by
  rw [List.filter_eq_self]
  intro i hi
  exact hall _ (h i hi)

/-- If none of its rules is picked, nothing of the part is left. -/
theorem filter_eq_nil (h : Within rules found) (broken : Rule → Bool)
    (hnone : ∀ rule ∈ rules, broken rule = false) :
    found.filter (fun i => broken i.rule) = [] := by
  rw [List.filter_eq_nil_iff]
  intro i hi
  simp [hnone _ (h i hi)]

end Within

/-! ## The rules that each part of the inspection can break -/

namespace Inspection

variable {d : Diagram} {p : Palette} {e : Edge} {k : Nat}

/-- The number of entries can be too small or too large. -/
theorem within_entryCount : Within [.entryMissing, .entryMultiple] (entryCount d) := by
  unfold entryCount
  split
  · exact .singleton (by simp [Issue.rule])
  · exact .nil
  · exact .singleton (by simp [Issue.rule])

theorem within_exitCount : Within [.exitMissing] (exitCount d) := .issueIf (by simp [Issue.rule])

theorem within_controlPresent : Within [.noControlFlow] (controlPresent d) :=
  .issueIf (by simp [Issue.rule])

theorem within_duplicates : Within [.edgeDuplicate] (duplicates d) :=
  .map fun _ => List.mem_singleton_self _

/-- The rules about the control edges at the entry. -/
theorem within_entryEdges : Within [.entryHasIncoming, .entryNoOutgoing] (entryEdges d) := by
  unfold entryEdges
  split
  · exact .append (.issueIf (by simp [Issue.rule])) (.issueIf (by simp [Issue.rule]))
  · exact .nil

/-- The rules about the control edges at the exits. -/
theorem within_exitEdges : Within [.exitHasOutgoing, .exitNoIncoming] (exitEdges d) :=
  .flatMap fun _ => .append (.issueIf (by simp [Issue.rule])) (.issueIf (by simp [Issue.rule]))

/-- One issue at most tells all nodes that are not reached. -/
theorem within_reachability : Within [.nodeUnreachable] (reachability d p) := by
  unfold reachability
  split
  · split
    · exact .nil
    · split
      · exact .nil
      · exact .singleton (by simp [Issue.rule])
  · exact .nil

/-- One issue at most tells a cycle. -/
theorem within_cycles : Within [.controlCycle] (cycles d) := by
  unfold cycles
  split
  · exact .singleton (by simp [Issue.rule])
  · exact .nil

theorem within_variableLinks : Within [.dataVariableToVariable] (variableLinks d p) :=
  .map fun _ => List.mem_singleton_self _

end Inspection

/-! ## What each part looks at -/

namespace Diagram

variable {d d' : Diagram}

/-- The ends of the legal control edges, all that the rules about the whole diagram see of them. -/
def controlEnds (d : Diagram) : List (String × String) :=
  d.legalControl.map fun e => (e.source, e.target)

theorem isEmpty_legalControl : d.legalControl.isEmpty = d.controlEnds.isEmpty := by
  unfold controlEnds
  rw [List.isEmpty_map]

/-- Whether control leaves a node is seen from the ends alone. -/
theorem any_source_legalControl (id : String) :
    d.legalControl.any (·.source == id) = d.controlEnds.any (·.1 == id) := by
  unfold controlEnds
  rw [List.any_map]
  rfl

/-- Whether control arrives at a node is seen from the ends alone. -/
theorem any_target_legalControl (id : String) :
    d.legalControl.any (·.target == id) = d.controlEnds.any (·.2 == id) := by
  unfold controlEnds
  rw [List.any_map]
  rfl

/-- The links of control are made from the ends alone. -/
theorem controlLinks_legalControl : controlLinks d.legalControl = .ofPairs d.controlEnds := by
  have hcontrol : d.legalControl.filter (·.isControl) = d.legalControl := by
    unfold legalControl
    rw [List.filter_filter]
    simp only [Bool.and_self]
  unfold controlLinks controlEnds
  rw [hcontrol]

theorem nodesOf_congr (hnodes : d.nodes = d'.nodes) (role : Role) :
    d.nodesOf role = d'.nodesOf role := by
  unfold nodesOf
  rw [hnodes]

theorem node?_congr (hnodes : d.nodes = d'.nodes) : d.node? = d'.node? := by
  funext id
  unfold node?
  rw [hnodes]

/-- The entry is found among the nodes. -/
theorem soleEntry?_congr (hnodes : d.nodes = d'.nodes) : d.soleEntry? = d'.soleEntry? := by
  unfold soleEntry?
  rw [nodesOf_congr hnodes]

end Diagram

namespace Inspection

open Diagram

variable {d : Diagram} {p : Palette} {e : Edge} {k : Nat}

section Congr

variable {d' : Diagram} (hnodes : d.nodes = d'.nodes) (hends : d.controlEnds = d'.controlEnds)

include hnodes

/-- The counts depend on the nodes. -/
theorem entryCount_congr : entryCount d = entryCount d' := by
  unfold entryCount
  rw [nodesOf_congr hnodes]

theorem exitCount_congr : exitCount d = exitCount d' := by
  unfold exitCount
  rw [nodesOf_congr hnodes]

/-- The rules about a single edge depend on the edge and on the nodes at its ends. -/
theorem edge_congr : edge d k e = edge d' k e := by
  unfold edge
  rw [node?_congr hnodes]

include hends

/-- The other parts see the nodes and the ends of the legal control edges. -/
theorem controlPresent_congr : controlPresent d = controlPresent d' := by
  unfold controlPresent
  rw [hnodes, isEmpty_legalControl, isEmpty_legalControl, hends]

theorem entryEdges_congr : entryEdges d = entryEdges d' := by
  unfold entryEdges
  simp only [any_target_legalControl, any_source_legalControl]
  rw [soleEntry?_congr hnodes, hends]

theorem exitEdges_congr : exitEdges d = exitEdges d' := by
  unfold exitEdges
  simp only [any_target_legalControl, any_source_legalControl]
  rw [nodesOf_congr hnodes, hends]

/-- What is reached depends on the nodes and on the links of control. -/
theorem reachability_congr : reachability d p = reachability d' p := by
  unfold reachability unreached
  rw [soleEntry?_congr hnodes, isEmpty_legalControl, isEmpty_legalControl,
    controlLinks_legalControl, controlLinks_legalControl, hends, hnodes]

/-- So does the first cycle. -/
theorem cycles_congr : cycles d = cycles d' := by
  unfold cycles Diagram.ids
  rw [controlLinks_legalControl, controlLinks_legalControl, hends, hnodes]

end Congr

/-- The parts that come before those for single edges. -/
def counts (d : Diagram) : List Issue := entryCount d ++ exitCount d

/-- The parts that come after those for single edges. -/
def overall (d : Diagram) (p : Palette) : List Issue :=
  controlPresent d ++ duplicates d ++ entryEdges d ++ exitEdges d ++ reachability d p ++
    cycles d ++ variableLinks d p

/-- The parts of an inspection, in the order of the report. -/
theorem issues_of_nodes (h : d.nodes ≠ []) :
    d.issues p = counts d ++ everyEdge d ++ overall d p := by
  unfold Diagram.issues counts overall
  rw [if_neg (by simpa using h)]
  simp only [List.append_assoc]

/-- Of a diagram without nodes nothing else is said. -/
theorem issues_of_no_nodes (h : d.nodes = []) : d.issues p = [.graphEmpty] := by
  unfold Diagram.issues
  rw [if_pos (by simpa using h)]

/-- The rules about numbers of entries and exits. -/
theorem within_counts : Within [.entryMissing, .entryMultiple, .exitMissing] (counts d) :=
  .append (within_entryCount.mono (by simp)) (within_exitCount.mono (by simp))

/-- The rules about the whole diagram. None of them is about illegal edges. -/
theorem within_overall : Within [.noControlFlow, .edgeDuplicate, .entryHasIncoming,
    .entryNoOutgoing, .exitHasOutgoing, .exitNoIncoming, .nodeUnreachable, .controlCycle,
    .dataVariableToVariable] (overall d p) := by
  unfold overall
  refine .append (.append (.append (.append (.append (.append ?_ ?_) ?_) ?_) ?_) ?_) ?_
  · exact within_controlPresent.mono (by simp)
  · exact within_duplicates.mono (by simp)
  · exact within_entryEdges.mono (by simp)
  · exact within_exitEdges.mono (by simp)
  · exact within_reachability.mono (by simp)
  · exact within_cycles.mono (by simp)
  · exact within_variableLinks.mono (by simp)

/-! ## Single edges -/

/-- What has no issues can be left out. -/
theorem flatMap_filter_of_nil {α : Type} {f : α → List Issue} {keep : α → Bool} {xs : List α}
    (h : ∀ x ∈ xs, ¬ keep x = true → f x = []) : (xs.filter keep).flatMap f = xs.flatMap f := by
  induction xs with
  | nil => rfl
  | cons x xs ih =>
    have ih := ih fun y hy => h y (List.mem_cons_of_mem x hy)
    by_cases hx : keep x = true
    · rw [List.filter_cons_of_pos hx, List.flatMap_cons, List.flatMap_cons, ih]
    · have hnil : f x = [] := h x (List.mem_cons_self ..) hx
      rw [List.filter_cons_of_neg hx, List.flatMap_cons, hnil, List.nil_append, ih]

/-- An illegal edge has one issue: an end is missing, or it is a loop. -/
theorem edge_of_not_joins (h : ¬ d.Joins e) :
    edge d k e = [.edgeMissingNode k e] ∨ edge d k e = [.edgeSelfLoop e] := by
  unfold edge
  split
  · next source target hs ht =>
    have hloop : e.isLoop = true := by
      by_contra hne
      exact h ⟨Diagram.mem_ids_of_node? hs, Diagram.mem_ids_of_node? ht,
        by simpa [Edge.isLoop] using hne⟩
    right
    rw [if_pos hloop]
  · left
    rfl

section Ends

variable {source target : Node} (hs : d.node? e.source = some source)
  (ht : d.node? e.target = some target) (hne : e.source ≠ e.target)

include hs ht hne

/-- A legal control edge is looked at by the rules for control. -/
theorem edge_of_control (hflow : e.flow = .control) : edge d k e = controlEdge e source target := by
  have hloop : ¬ e.isLoop = true := by simpa [Edge.isLoop] using hne
  unfold edge
  simp only [hs, ht, if_neg hloop, hflow]

/-- A legal data edge is looked at by the rules for data. -/
theorem edge_of_data (hflow : e.flow = .data) : edge d k e = dataEdge e source target := by
  have hloop : ¬ e.isLoop = true := by simpa [Edge.isLoop] using hne
  unfold edge
  simp only [hs, ht, if_neg hloop, hflow]

end Ends

/-- A legal edge breaks no rule for illegal edges. -/
theorem within_edge_of_joins (h : d.Joins e) :
    Within [.controlFromExit, .controlIntoEntry, .dataTouchesEntry, .dataFromExit]
      (edge d k e) := by
  obtain ⟨source, hs⟩ := Diagram.exists_node? h.1
  obtain ⟨target, ht⟩ := Diagram.exists_node? h.2.1
  cases hflow : e.flow with
  | control =>
    rw [edge_of_control hs ht h.2.2 hflow]
    exact .append (.issueIf (by simp [Issue.rule])) (.issueIf (by simp [Issue.rule]))
  | data =>
    rw [edge_of_data hs ht h.2.2 hflow]
    exact .append (.issueIf (by simp [Issue.rule])) (.issueIf (by simp [Issue.rule]))

/-- The position of an edge shows only where an end of it is missing. -/
theorem filter_edge {broken : Rule → Bool} (h : broken .edgeMissingNode = false) (k : Nat)
    (e : Edge) : (edge d k e).filter (fun i => broken i.rule) =
      (edge d 1 e).filter (fun i => broken i.rule) := by
  have hmissing : ∀ k, [Issue.edgeMissingNode k e].filter (fun i => broken i.rule) = [] := by
    intro k
    exact List.filter_cons_of_neg (by simpa [Issue.rule] using h)
  unfold edge
  split
  · rfl
  · rw [hmissing, hmissing]

/-- If positions do not show, the edges are looked at one by one, whatever stands before them. -/
theorem filter_everyEdge (d : Diagram) (broken : Rule → Bool)
    (h : broken .edgeMissingNode = false) :
    (everyEdge d).filter (fun i => broken i.rule) =
      d.edges.flatMap fun e => (edge d 1 e).filter (fun i => broken i.rule) := by
  unfold everyEdge
  rw [List.filter_flatMap]
  calc (d.edges.zipIdx 1).flatMap (fun x => (edge d x.2 x.1).filter fun i => broken i.rule)
      = (d.edges.zipIdx 1).flatMap (fun x => (edge d 1 x.1).filter fun i => broken i.rule) := by
        simp only [filter_edge h]
    _ = ((d.edges.zipIdx 1).map Prod.fst).flatMap
          fun e => (edge d 1 e).filter fun i => broken i.rule := by
        rw [List.flatMap_map]
    _ = d.edges.flatMap fun e => (edge d 1 e).filter fun i => broken i.rule := by
        rw [List.zipIdx_map_fst]

end Inspection

/-! ## The legal part of a diagram -/

/-- The rules that only illegal edges break. -/
def Rule.isForIllegalEdges (rule : Rule) : Bool := rule = .edgeMissingNode || rule = .edgeSelfLoop

namespace Diagram

instance (d : Diagram) : DecidablePred d.Joins :=
  fun e => inferInstanceAs (Decidable (e.source ∈ d.ids ∧ e.target ∈ d.ids ∧ e.source ≠ e.target))

/-- A diagram without its illegal edges. -/
def legalPart (d : Diagram) : Diagram := { d with edges := d.edges.filter fun e => d.Joins e }

variable {d : Diagram} {p : Palette}

theorem joins_legalPart {e : Edge} : d.legalPart.Joins e ↔ d.Joins e := Iff.rfl

/-- The edges that join two nodes are those that the inspection calls legal. -/
theorem edges_legalPart : d.legalPart.edges = d.legalEdges := by
  refine List.filter_congr fun e _ => ?_
  rw [Bool.eq_iff_iff, decide_eq_true_iff, isLegal_iff]

/-- A legal edge stays legal: no node is taken away. -/
theorem legalEdges_legalPart : d.legalPart.legalEdges = d.legalEdges := by
  show d.legalPart.edges.filter d.isLegal = d.legalEdges
  rw [edges_legalPart, legalEdges, List.filter_filter]
  simp only [Bool.and_self]

theorem controlEnds_legalPart : d.legalPart.controlEnds = d.controlEnds := by
  unfold controlEnds legalControl
  rw [legalEdges_legalPart]

end Diagram

namespace Inspection

variable {d : Diagram} {p : Palette} {e : Edge} {k : Nat}

/-- The issues of a legal edge all remain. -/
theorem filter_edge_of_joins (h : d.Joins e) :
    (edge d k e).filter (fun i => !i.rule.isForIllegalEdges) = edge d k e :=
  (within_edge_of_joins h).filter_eq_self (fun rule => !rule.isForIllegalEdges) (by decide)

/-- The issue of an illegal edge goes. -/
theorem filter_edge_of_not_joins (h : ¬ d.Joins e) :
    (edge d k e).filter (fun i => !i.rule.isForIllegalEdges) = [] := by
  rcases edge_of_not_joins (k := k) h with he | he <;> rw [he] <;> rfl

/-- Among single edges the issues that remain are those of the legal ones. -/
theorem filter_everyEdge_eq_legalPart :
    (everyEdge d).filter (fun i => !i.rule.isForIllegalEdges) = everyEdge d.legalPart := by
  have hkept : (everyEdge d.legalPart).filter (fun i => !i.rule.isForIllegalEdges) =
      everyEdge d.legalPart := by
    unfold everyEdge
    rw [List.filter_flatMap]
    refine List.flatMap_congr fun x hx => ?_
    have hmem : x.1 ∈ d.legalPart.edges := List.fst_mem_of_mem_zipIdx hx
    have hjoins : d.Joins x.1 := by simpa using (List.mem_filter.mp hmem).2
    exact filter_edge_of_joins (Diagram.joins_legalPart.mpr hjoins)
  have hsplit := fun d => filter_everyEdge d (fun rule => !rule.isForIllegalEdges) rfl
  rw [← hkept, hsplit, hsplit]
  -- both sides go through the edges of `d`; on the right the illegal ones are gone
  refine (flatMap_filter_of_nil fun e _ he => ?_).symm
  exact filter_edge_of_not_joins (by simpa using he)

/-- Each illegal edge has one issue of the rules for illegal edges, and legal edges have none. -/
theorem length_filter_edge :
    ((edge d k e).filter fun i => i.rule.isForIllegalEdges).length =
      if d.Joins e then 0 else 1 := by
  by_cases he : d.Joins e
  · rw [if_pos he, (within_edge_of_joins he).filter_eq_nil _ (by decide)]
    rfl
  · rw [if_neg he]
    rcases edge_of_not_joins (k := k) he with h | h <;> rw [h] <;> rfl

/-- There are as many issues of the rules for illegal edges as there are illegal edges. -/
theorem length_filter_everyEdge :
    ((everyEdge d).filter fun i => i.rule.isForIllegalEdges).length =
      (d.edges.filter fun e => ¬ d.Joins e).length := by
  have hcount : ∀ (edges : List Edge) (k : Nat),
      ((edges.zipIdx k).map fun x => if d.Joins x.1 then 0 else 1).sum =
        (edges.filter fun e => ¬ d.Joins e).length := by
    intro edges
    induction edges with
    | nil => simp
    | cons e edges ih =>
      intro k
      rw [List.zipIdx_cons, List.map_cons, List.sum_cons, ih]
      by_cases he : d.Joins e
      · simp [he]
      · simp [he]
        omega
  unfold everyEdge
  rw [List.filter_flatMap, List.length_flatMap]
  simp only [length_filter_edge]
  exact hcount d.edges 1

/-- The parts that look at the whole diagram look at its nodes and its legal edges. -/
theorem overall_legalPart : overall d.legalPart p = overall d p := by
  have hnodes : d.legalPart.nodes = d.nodes := rfl
  have hends : d.legalPart.controlEnds = d.controlEnds := Diagram.controlEnds_legalPart
  have hduplicates : duplicates d.legalPart = duplicates d := by
    unfold duplicates
    rw [Diagram.legalEdges_legalPart]
  have hlinks : variableLinks d.legalPart p = variableLinks d p := by
    unfold variableLinks Diagram.legalData
    rw [Diagram.legalEdges_legalPart]
    rfl
  unfold overall
  rw [controlPresent_congr hnodes hends, hduplicates, entryEdges_congr hnodes hends,
    exitEdges_congr hnodes hends, reachability_congr hnodes hends, cycles_congr hnodes hends,
    hlinks]

end Inspection

/-- **Illegal edges do not show anywhere else.** Without them a diagram has the same issues in the
same order, except those of the rules for illegal edges; and of these a diagram with nodes has as
many as it has illegal edges. -/
theorem Diagram.issues_legalPart (d : Diagram) (p : Palette) :
    (d.legalPart.inspect p).issues =
      (d.inspect p).issues.filter (fun i => !i.rule.isForIllegalEdges) ∧
    (d.nodes ≠ [] → ((d.inspect p).issues.filter fun i => i.rule.isForIllegalEdges).length =
      (d.edges.filter fun e => ¬ d.Joins e).length) := by
  show d.legalPart.issues p = (d.issues p).filter _ ∧
    (_ → ((d.issues p).filter _).length = _)
  by_cases hnodes : d.nodes = []
  · have hnodes' : d.legalPart.nodes = [] := hnodes
    rw [Inspection.issues_of_no_nodes hnodes, Inspection.issues_of_no_nodes hnodes']
    exact ⟨rfl, fun h => absurd hnodes h⟩
  have hnodes' : d.legalPart.nodes ≠ [] := hnodes
  rw [Inspection.issues_of_nodes hnodes, Inspection.issues_of_nodes hnodes']
  simp only [List.filter_append]
  constructor
  · have hcounts : (Inspection.counts d).filter (fun i => !i.rule.isForIllegalEdges) =
        Inspection.counts d :=
      Inspection.within_counts.filter_eq_self (fun rule => !rule.isForIllegalEdges) (by decide)
    have hoverall : (Inspection.overall d p).filter (fun i => !i.rule.isForIllegalEdges) =
        Inspection.overall d p :=
      Inspection.within_overall.filter_eq_self (fun rule => !rule.isForIllegalEdges) (by decide)
    rw [hcounts, hoverall, Inspection.filter_everyEdge_eq_legalPart, Inspection.overall_legalPart]
    rfl
  · intro _
    rw [Inspection.within_counts.filter_eq_nil _ (by decide),
      Inspection.within_overall.filter_eq_nil _ (by decide), List.nil_append, List.append_nil]
    exact Inspection.length_filter_everyEdge

/-- A loop, an edge into nowhere and an edge that stands twice: the last one stays. -/
theorem Diagram.issues_legalPart_of_mixed :
    let d : Diagram :=
      { nodes := [{ id := "s", role := .entry }, { id := "a", role := .operation },
          { id := "x", role := .exit }]
        edges := [{ id := "1", source := "s", target := "a" },
          { id := "2", source := "a", target := "a" },
          { id := "3", source := "a", target := "y", statedFlow := some .data },
          { id := "4", source := "a", target := "x" },
          { id := "5", source := "s", target := "a" }] }
    d.nodes ≠ [] ∧
      (d.issues .empty).map (·.rule) = [.edgeSelfLoop, .edgeMissingNode, .edgeDuplicate] ∧
      (d.legalPart.inspect .empty).issues =
        (d.inspect .empty).issues.filter (fun i => !i.rule.isForIllegalEdges) ∧
      ((d.inspect .empty).issues.filter fun i => i.rule.isForIllegalEdges).length = 2 := by
  intro d
  have hnodes : d.nodes ≠ [] := by simp [d]
  obtain ⟨hissues, hlength⟩ := issues_legalPart d .empty
  have hillegal : (d.edges.filter fun e => ¬ d.Joins e).length = 2 := by decide
  exact ⟨hnodes, by cbv, hissues, (hlength hnodes).trans hillegal⟩

end Blueprint
