import Blueprint.Proofs.InspectionOrder
import Blueprint.Proofs.LegalEdges

/-!
# Proofs: what single rules find

The inspection is a row of parts, each of which looks after rules of its own, so the issues of a
rule come from one part. This is used to say exactly what is found under the rule that every node is
reached, and to compare the rules about entries and exits, which are looked at twice: for each edge
by its ends, and for each entry and exit by the edges at it.
-/

namespace Blueprint

open Relation

namespace Inspection

variable {d : Diagram} {p : Palette} {i : Issue}

theorem within_everyEdge : Within [.edgeMissingNode, .edgeSelfLoop, .controlFromExit,
    .controlIntoEntry, .dataTouchesEntry, .dataFromExit] (everyEdge d) := by
  refine .flatMap fun x => ?_
  obtain ⟨e, k⟩ := x
  show Within _ (edge d k e)
  by_cases hjoins : d.Joins e
  · exact (within_edge_of_joins hjoins).mono (by simp)
  · rcases edge_of_not_joins (k := k) hjoins with h | h
    · rw [h]
      exact .singleton (by simp [Issue.rule])
    · rw [h]
      exact .singleton (by simp [Issue.rule])

/-- The parts of an inspection, each with the rules that it looks after. -/
def parts (d : Diagram) (p : Palette) : List (List Rule × List Issue) :=
  [([.entryMissing, .entryMultiple], entryCount d),
   ([.exitMissing], exitCount d),
   ([.edgeMissingNode, .edgeSelfLoop, .controlFromExit, .controlIntoEntry, .dataTouchesEntry,
     .dataFromExit], everyEdge d),
   ([.noControlFlow], controlPresent d),
   ([.edgeDuplicate], duplicates d),
   ([.entryHasIncoming, .entryNoOutgoing], entryEdges d),
   ([.exitHasOutgoing, .exitNoIncoming], exitEdges d),
   ([.nodeUnreachable], reachability d p),
   ([.controlCycle], cycles d),
   ([.dataVariableToVariable], variableLinks d p)]

theorem within_parts : ∀ part ∈ parts d p, Within part.1 part.2 := by
  unfold parts
  simp only [List.forall_mem_cons, List.not_mem_nil, IsEmpty.forall_iff, implies_true, and_true]
  exact ⟨within_entryCount, within_exitCount, within_everyEdge, within_controlPresent,
    within_duplicates, within_entryEdges, within_exitEdges, within_reachability, within_cycles,
    within_variableLinks⟩

theorem issues_eq_parts (h : d.nodes ≠ []) : d.issues p = (parts d p).flatMap (·.2) := by
  unfold Diagram.issues parts
  rw [if_neg (by simpa using h)]
  simp only [List.flatMap_cons, List.flatMap_nil, List.append_assoc, List.append_nil]

/-- The issues of a rule come from the parts that look after it. -/
theorem filter_issues (h : d.nodes ≠ []) (rule : Rule) :
    (d.issues p).filter (·.rule = rule) =
      ((parts d p).filter (rule ∈ ·.1)).flatMap fun part => part.2.filter (·.rule = rule) := by
  rw [issues_eq_parts h, List.filter_flatMap]
  refine (flatMap_filter_of_nil fun part hpart hrule => ?_).symm
  refine (within_parts part hpart).filter_eq_nil (· = rule) fun other hother => ?_
  rw [decide_eq_false_iff_not]
  rintro rfl
  exact hrule (by simpa using hother)

theorem filter_issues_of_part {rule : Rule} {found : List Issue} (hrule : rule ≠ .graphEmpty)
    (hpart : (parts d p).filter (rule ∈ ·.1) = [([rule], found)])
    (hempty : d.nodes = [] → found = []) : (d.issues p).filter (·.rule = rule) = found := by
  by_cases hnodes : d.nodes = []
  · rw [issues_of_no_nodes hnodes, hempty hnodes]
    simp [Issue.rule, hrule.symm]
  · have hmem : ([rule], found) ∈ parts d p :=
      List.mem_of_mem_filter (by rw [hpart]; exact List.mem_singleton_self _)
    rw [filter_issues hnodes, hpart, List.flatMap_singleton]
    exact (within_parts _ hmem).filter_eq_self (· = rule) (by simp)

theorem mem_issues (h : d.nodes ≠ []) :
    i ∈ d.issues p ↔ ∃ part ∈ parts d p, i.rule ∈ part.1 ∧ i ∈ part.2 := by
  rw [issues_eq_parts h, List.mem_flatMap]
  refine exists_congr fun part => and_congr_right fun hpart => ?_
  exact ⟨fun hi => ⟨within_parts part hpart i hi, hi⟩, fun hi => hi.2⟩

end Inspection

/-! ## Nodes that are not reached -/

namespace Diagram

/-- Control goes from a node to another one along an edge. -/
def LegalStep (d : Diagram) (a b : String) : Prop :=
  ∃ e ∈ d.edges, d.Joins e ∧ e.flow = .control ∧ e.source = a ∧ e.target = b

/-- The node takes part in execution, but control does not come to it from the entry. -/
structure LeftOut (d : Diagram) (p : Palette) (entry n : Node) : Prop where
  not_entry : n.role ≠ .entry
  takes_part : ¬ (p.category n = .memory ∧ ∀ port ∈ n.ports, port.dataType ≠ .control)
  unreached : ¬ ReflTransGen d.LegalStep entry.id n.id

variable {d : Diagram} {p : Palette} {entry : Node}

theorem controlStep_eq_legalStep : ControlStep d.legalControl = d.LegalStep := by
  funext a b
  apply propext
  constructor
  · rintro ⟨e, he, hflow, hsource, htarget⟩
    obtain ⟨⟨hmem, hjoins⟩, -⟩ := mem_legalControl.mp he
    exact ⟨e, hmem, hjoins, hflow, hsource, htarget⟩
  · rintro ⟨e, hmem, hjoins, hflow, hsource, htarget⟩
    exact ⟨e, mem_legalControl.mpr ⟨⟨hmem, hjoins⟩, hflow⟩, hflow, hsource, htarget⟩

theorem leftOut_iff {n : Node} :
    d.LeftOut p entry n ↔ (decide (n.role ≠ .entry) &&
      !((controlLinks d.legalControl).reach [entry.id]).contains n.id &&
      !Inspection.isPureData p n) = true := by
  have hreach : n.id ∈ (controlLinks d.legalControl).reach [entry.id] ↔
      ReflTransGen d.LegalStep entry.id n.id := by
    rw [mem_reach_legalControl, controlStep_eq_legalStep]
  have hpure := Inspection.isPureData_iff (p := p) (n := n)
  simp only [Bool.and_eq_true, decide_eq_true_iff, Bool.not_eq_true', Bool.eq_false_iff,
    List.contains_iff_mem, ne_eq, hreach, hpure]
  constructor
  · rintro ⟨hrole, hpart, hno⟩
    exact ⟨⟨hrole, hno⟩, hpart⟩
  · rintro ⟨⟨hrole, hno⟩, hpart⟩
    exact ⟨hrole, hpart, hno⟩

instance (d : Diagram) (p : Palette) (entry : Node) : DecidablePred (d.LeftOut p entry) :=
  fun _ => decidable_of_iff _ leftOut_iff.symm

end Diagram

namespace Inspection

variable {d : Diagram} {p : Palette} {entry : Node}

theorem unreached_eq : unreached d p entry = d.nodes.filter (d.LeftOut p entry) := by
  unfold unreached
  refine List.filter_congr fun n _ => ?_
  rw [Bool.eq_iff_iff, decide_eq_true_iff]
  exact Diagram.leftOut_iff.symm

theorem filter_nodeUnreachable (d : Diagram) (p : Palette) :
    (d.issues p).filter (·.rule = .nodeUnreachable) = reachability d p := by
  refine filter_issues_of_part (by decide) rfl fun hnodes => ?_
  have hsole : d.soleEntry? = none := by simp [Diagram.soleEntry?, Diagram.nodesOf, hnodes]
  rw [reachability, hsole]

theorem mem_reachability {i : Issue} :
    i ∈ reachability d p ↔ ∃ entry, d.nodesOf .entry = [entry] ∧
      (∃ e ∈ d.edges, d.Joins e ∧ e.flow = .control) ∧ (∃ n ∈ d.nodes, d.LeftOut p entry n) ∧
      i = .nodeUnreachable (d.nodes.filter (d.LeftOut p entry)) := by
  have hcontrol : (∃ e ∈ d.edges, d.Joins e ∧ e.flow = .control) ↔
      ¬ d.legalControl.isEmpty = true := by
    rw [Bool.not_eq_true, List.isEmpty_eq_false_iff_exists_mem]
    simp only [Diagram.mem_legalControl, and_assoc]
  have hsome : ∀ entry, (∃ n ∈ d.nodes, d.LeftOut p entry n) ↔ unreached d p entry ≠ [] := by
    intro entry
    rw [unreached_eq, ne_eq, List.filter_eq_nil_iff]
    simp
  simp only [hcontrol, hsome, ← unreached_eq]
  unfold reachability
  constructor
  · intro hi
    split at hi
    · next entry hsole =>
      split at hi
      · cases hi
      · next hne =>
        split at hi
        · cases hi
        · next hleft =>
          exact ⟨entry, Diagram.nodesOf_of_soleEntry hsole, hne, hleft, List.mem_singleton.mp hi⟩
    · cases hi
  · rintro ⟨entry, hentry, hne, hleft, rfl⟩
    rw [Diagram.soleEntry?_eq_some hentry]
    dsimp only
    rw [if_neg hne]
    split
    · next hnil => exact absurd hnil hleft
    · exact List.mem_singleton_self _

theorem length_reachability_le : (reachability d p).length ≤ 1 := by
  unfold reachability
  split
  · split
    · simp
    · split
      · simp
      · simp
  · simp

end Inspection

/-- **Nodes that are not reached are reported exactly.** There is one issue at most under this rule.
There is one if and only if there is exactly one entry, some control edge leads from a node to
another one, and control does not come along such edges from the entry to some node that is neither
an entry nor a variable node without control ports. The issue then names these nodes in the order of
their declaration. -/
theorem Diagram.unreached_reported_exactly (d : Diagram) (p : Palette) :
    let found := (d.inspect p).issues.filter (·.rule = .nodeUnreachable)
    found.length ≤ 1 ∧
    (found ≠ [] ↔ ∃ entry, d.nodesOf .entry = [entry] ∧
      (∃ e ∈ d.edges, d.Joins e ∧ e.flow = .control) ∧ ∃ n ∈ d.nodes, d.LeftOut p entry n) ∧
    ∀ i ∈ found, ∃ entry, d.nodesOf .entry = [entry] ∧
      i.nodes = (d.nodes.filter (d.LeftOut p entry)).map (·.id) := by
  intro found
  have hfound : found = Inspection.reachability d p := Inspection.filter_nodeUnreachable d p
  rw [hfound]
  refine ⟨Inspection.length_reachability_le, ?_, ?_⟩
  · rw [← List.isEmpty_eq_false_iff, List.isEmpty_eq_false_iff_exists_mem]
    simp only [Inspection.mem_reachability]
    constructor
    · rintro ⟨i, entry, hentry, hcontrol, hleft, -⟩
      exact ⟨entry, hentry, hcontrol, hleft⟩
    · rintro ⟨entry, hentry, hcontrol, hleft⟩
      exact ⟨_, entry, hentry, hcontrol, hleft, rfl⟩
  · intro i hi
    obtain ⟨entry, hentry, -, -, rfl⟩ := Inspection.mem_reachability.mp hi
    exact ⟨entry, hentry, rfl⟩

/-- Control goes on from `"a"` through a name that stands for no node, and to `"x"` leads a data edge
only. `"v"` has a control port and `"w"` has none; `"a"` and `"b"` are declared twice. -/
theorem Diagram.unreached_reported_behind_gap :
    let port : Port := { id := "in", dataType := .control }
    let s : Node := { id := "s", role := .entry }
    let a : Node := { id := "a", role := .operation }
    let b : Node := { id := "b", role := .operation }
    let v : Node := { id := "v", role := .assign, inputs := [port] }
    let w : Node := { id := "w", role := .assign }
    let x : Node := { id := "x", role := .exit }
    let d : Diagram :=
      { nodes := [b, s, a, v, w, a, b, x]
        edges := [{ id := "1", source := "s", target := "a" },
          { id := "2", source := "a", target := "y" }, { id := "3", source := "y", target := "b" },
          { id := "4", source := "a", target := "x", statedFlow := some .data }] }
    let found := (d.inspect .empty).issues.filter (·.rule = .nodeUnreachable)
    found = [.nodeUnreachable [b, v, b, x]] ∧ ∀ i ∈ found, i.nodes = ["b", "v", "b", "x"] := by
  intro port s a b v w x d found
  have hpart : Inspection.reachability d .empty = [.nodeUnreachable [b, v, b, x]] := by cbv
  have hfound : found = [.nodeUnreachable [b, v, b, x]] :=
    (Inspection.filter_nodeUnreachable d .empty).trans hpart
  have hleft : (d.nodes.filter (d.LeftOut .empty s)).map (·.id) = ["b", "v", "b", "x"] := by cbv
  have hsole : d.nodesOf .entry = [s] := rfl
  refine ⟨hfound, fun i hi => ?_⟩
  obtain ⟨entry, hentry, hids⟩ := (unreached_reported_exactly d .empty).2.2 i hi
  obtain rfl : s = entry := by simpa [hsole] using hentry
  rw [hids, hleft]

/-! ## Entries and exits -/

namespace Inspection

variable {d : Diagram} {p : Palette} {e : Edge} {n : Node} {i : Issue}

theorem mem_issueIf {condition : Bool} {j : Issue} :
    i ∈ issueIf condition j ↔ condition = true ∧ i = j := by
  cases condition <;> simp [issueIf]

theorem mem_everyEdge (hrule : i.rule ≠ .edgeMissingNode) :
    i ∈ everyEdge d ↔ ∃ e ∈ d.edges, i ∈ edge d 1 e := by
  have hfilter := filter_everyEdge d (· = i.rule) (decide_eq_false fun h => hrule h.symm)
  have hmem : i ∈ everyEdge d ↔ i ∈ (everyEdge d).filter (·.rule = i.rule) := by simp
  rw [hmem, hfilter]
  simp [List.mem_flatMap]

/-- The rules for the ends of control edges are broken by legal control edges only. -/
theorem mem_everyEdge_of_control
    (hrule : i.rule = .controlFromExit ∨ i.rule = .controlIntoEntry) :
    i ∈ everyEdge d ↔ ∃ e ∈ d.legalControl, ∃ source target, d.node? e.source = some source ∧
      d.node? e.target = some target ∧ i ∈ controlEdge e source target := by
  rw [mem_everyEdge (by rcases hrule with h | h <;> simp [h])]
  constructor
  · rintro ⟨e, he, hi⟩
    by_cases hjoins : d.Joins e
    · obtain ⟨source, hs⟩ := Diagram.exists_node? hjoins.1
      obtain ⟨target, ht⟩ := Diagram.exists_node? hjoins.2.1
      cases hflow : e.flow with
      | control =>
        rw [edge_of_control hs ht hjoins.2.2 hflow] at hi
        exact ⟨e, Diagram.mem_legalControl.mpr ⟨⟨he, hjoins⟩, hflow⟩, source, target, hs, ht, hi⟩
      | data =>
        rw [edge_of_data hs ht hjoins.2.2 hflow, dataEdge, List.mem_append, mem_issueIf,
          mem_issueIf] at hi
        rcases hi with ⟨-, rfl⟩ | ⟨-, rfl⟩ <;> simp [Issue.rule] at hrule
    · rcases edge_of_not_joins (k := 1) hjoins with h | h
      · rw [h, List.mem_singleton] at hi
        simp [hi, Issue.rule] at hrule
      · rw [h, List.mem_singleton] at hi
        simp [hi, Issue.rule] at hrule
  · rintro ⟨e, he, source, target, hs, ht, hi⟩
    obtain ⟨⟨hmem, hjoins⟩, hflow⟩ := Diagram.mem_legalControl.mp he
    refine ⟨e, hmem, ?_⟩
    rwa [edge_of_control hs ht hjoins.2.2 hflow]

theorem controlFromExit_mem_issues (hnodes : d.nodes ≠ []) :
    .controlFromExit e n ∈ d.issues p ↔
      e ∈ d.legalControl ∧ d.node? e.source = some n ∧ n.role = .exit := by
  have hpart : .controlFromExit e n ∈ d.issues p ↔ .controlFromExit e n ∈ everyEdge d :=
    (mem_issues hnodes).trans (by simp [parts, Issue.rule])
  rw [hpart, mem_everyEdge_of_control (Or.inl rfl)]
  simp only [controlEdge, List.mem_append, mem_issueIf, decide_eq_true_iff]
  constructor
  · rintro ⟨e', he, source, target, hs, -, ⟨hrole, h⟩ | ⟨-, h⟩⟩ <;> cases h
    exact ⟨he, hs, hrole⟩
  · rintro ⟨he, hn, hrole⟩
    obtain ⟨target, ht⟩ := Diagram.exists_node? (Diagram.mem_legalControl.mp he).1.2.2.1
    exact ⟨e, he, n, target, hn, ht, Or.inl ⟨hrole, rfl⟩⟩

theorem controlIntoEntry_mem_issues (hnodes : d.nodes ≠ []) :
    .controlIntoEntry e n ∈ d.issues p ↔
      e ∈ d.legalControl ∧ d.node? e.target = some n ∧ n.role = .entry := by
  have hpart : .controlIntoEntry e n ∈ d.issues p ↔ .controlIntoEntry e n ∈ everyEdge d :=
    (mem_issues hnodes).trans (by simp [parts, Issue.rule])
  rw [hpart, mem_everyEdge_of_control (Or.inr rfl)]
  simp only [controlEdge, List.mem_append, mem_issueIf, decide_eq_true_iff]
  constructor
  · rintro ⟨e', he, source, target, -, ht, ⟨-, h⟩ | ⟨hrole, h⟩⟩ <;> cases h
    exact ⟨he, ht, hrole⟩
  · rintro ⟨he, hn, hrole⟩
    obtain ⟨source, hs⟩ := Diagram.exists_node? (Diagram.mem_legalControl.mp he).1.2.1
    exact ⟨e, he, source, n, hs, hn, Or.inr ⟨hrole, rfl⟩⟩

theorem exitHasOutgoing_mem_issues (hnodes : d.nodes ≠ []) :
    .exitHasOutgoing n ∈ d.issues p ↔
      n ∈ d.nodes ∧ n.role = .exit ∧ ∃ e ∈ d.legalControl, e.source = n.id := by
  have hpart : .exitHasOutgoing n ∈ d.issues p ↔ .exitHasOutgoing n ∈ exitEdges d :=
    (mem_issues hnodes).trans (by simp [parts, Issue.rule])
  rw [hpart]
  unfold exitEdges
  simp only [List.mem_flatMap, List.mem_append, mem_issueIf, Diagram.mem_nodesOf, List.any_eq_true,
    beq_iff_eq]
  constructor
  · rintro ⟨m, ⟨hm, hrole⟩, ⟨hout, h⟩ | ⟨-, h⟩⟩
    · cases h
      exact ⟨hm, hrole, hout⟩
    · cases h
  · rintro ⟨hn, hrole, hout⟩
    exact ⟨n, ⟨hn, hrole⟩, Or.inl ⟨hout, rfl⟩⟩

theorem entryHasIncoming_mem_issues (hnodes : d.nodes ≠ []) :
    .entryHasIncoming n ∈ d.issues p ↔
      d.nodesOf .entry = [n] ∧ ∃ e ∈ d.legalControl, e.target = n.id := by
  have hpart : .entryHasIncoming n ∈ d.issues p ↔ .entryHasIncoming n ∈ entryEdges d :=
    (mem_issues hnodes).trans (by simp [parts, Issue.rule])
  rw [hpart]
  unfold entryEdges
  constructor
  · intro hi
    split at hi
    · next entry hsole =>
      simp only [List.mem_append, mem_issueIf, List.any_eq_true, beq_iff_eq] at hi
      rcases hi with ⟨hin, h⟩ | ⟨-, h⟩
      · cases h
        exact ⟨Diagram.nodesOf_of_soleEntry hsole, hin⟩
      · cases h
    · cases hi
  · rintro ⟨hentry, hin⟩
    rw [Diagram.soleEntry?_eq_some hentry]
    simp only [List.mem_append, mem_issueIf, List.any_eq_true, beq_iff_eq]
    exact Or.inl ⟨hin, trivial⟩

end Inspection

/-- The names of the nodes that the issues of a rule are about. -/
def Report.nodesUnder (r : Report) (rule : Rule) : List String :=
  (r.issues.filter (·.rule = rule)).flatMap (·.nodes)

theorem Report.mem_nodesUnder {r : Report} {rule : Rule} {id : String} :
    id ∈ r.nodesUnder rule ↔ ∃ i ∈ r.issues, i.rule = rule ∧ id ∈ i.nodes := by
  unfold nodesUnder
  simp [and_assoc]

namespace Diagram

variable {d : Diagram} {p : Palette} {id : String}

theorem mem_nodesUnder_controlFromExit (hnodes : d.nodes ≠ []) :
    id ∈ (d.inspect p).nodesUnder .controlFromExit ↔
      ∃ n, d.node? id = some n ∧ n.role = .exit ∧ ∃ e ∈ d.legalControl, e.source = id := by
  rw [Report.mem_nodesUnder]
  constructor
  · rintro ⟨i, hi, hrule, hid⟩
    cases i with
    | controlFromExit e n =>
      obtain rfl : id = e.source := List.mem_singleton.mp hid
      obtain ⟨he, hn, hrole⟩ := (Inspection.controlFromExit_mem_issues hnodes).mp hi
      exact ⟨n, hn, hrole, e, he, rfl⟩
    | _ => cases hrule
  · rintro ⟨n, hn, hrole, e, he, rfl⟩
    have hi := (Inspection.controlFromExit_mem_issues (p := p) hnodes).mpr ⟨he, hn, hrole⟩
    exact ⟨.controlFromExit e n, hi, rfl, List.mem_singleton_self _⟩

theorem mem_nodesUnder_exitHasOutgoing (hnodes : d.nodes ≠ []) :
    id ∈ (d.inspect p).nodesUnder .exitHasOutgoing ↔
      ∃ n ∈ d.nodes, n.id = id ∧ n.role = .exit ∧ ∃ e ∈ d.legalControl, e.source = id := by
  rw [Report.mem_nodesUnder]
  constructor
  · rintro ⟨i, hi, hrule, hid⟩
    cases i with
    | exitHasOutgoing n =>
      obtain rfl : id = n.id := List.mem_singleton.mp hid
      obtain ⟨hn, hrole, hout⟩ := (Inspection.exitHasOutgoing_mem_issues hnodes).mp hi
      exact ⟨n, hn, rfl, hrole, hout⟩
    | _ => cases hrule
  · rintro ⟨n, hn, rfl, hrole, hout⟩
    have hi := (Inspection.exitHasOutgoing_mem_issues (p := p) hnodes).mpr ⟨hn, hrole, hout⟩
    exact ⟨.exitHasOutgoing n, hi, rfl, List.mem_singleton_self _⟩

theorem exists_controlIntoEntry_iff (hnodes : d.nodes ≠ []) :
    (∃ i ∈ (d.inspect p).issues, i.rule = .controlIntoEntry) ↔
      ∃ e ∈ d.legalControl, ∃ n, d.node? e.target = some n ∧ n.role = .entry := by
  constructor
  · rintro ⟨i, hi, hrule⟩
    cases i with
    | controlIntoEntry e n =>
      obtain ⟨he, hn⟩ := (Inspection.controlIntoEntry_mem_issues hnodes).mp hi
      exact ⟨e, he, n, hn⟩
    | _ => cases hrule
  · rintro ⟨e, he, n, hn⟩
    have hi := (Inspection.controlIntoEntry_mem_issues (p := p) hnodes).mpr ⟨he, hn⟩
    exact ⟨.controlIntoEntry e n, hi, rfl⟩

theorem exists_entryHasIncoming_iff (hnodes : d.nodes ≠ []) {entry : Node}
    (hentry : d.nodesOf .entry = [entry]) :
    (∃ i ∈ (d.inspect p).issues, i.rule = .entryHasIncoming) ↔
      ∃ e ∈ d.legalControl, e.target = entry.id := by
  constructor
  · rintro ⟨i, hi, hrule⟩
    cases i with
    | entryHasIncoming n =>
      obtain ⟨hn, hin⟩ := (Inspection.entryHasIncoming_mem_issues hnodes).mp hi
      obtain rfl : entry = n := by simpa [hentry] using hn
      exact hin
    | _ => cases hrule
  · intro hin
    have hi := (Inspection.entryHasIncoming_mem_issues (p := p) hnodes).mpr ⟨hentry, hin⟩
    exact ⟨.entryHasIncoming entry, hi, rfl⟩

end Diagram

/-- **What is found at edges and what is found at nodes agree.** If node names are distinct, the
exits that control is said to leave are those from which some control edge is said to start. If there
is also exactly one entry, control is said to arrive there if and only if some control edge is said
to target an entry. -/
theorem Diagram.entry_exit_rules_agree (d : Diagram) (p : Palette) (hids : d.ids.Nodup) :
    ((d.inspect p).nodesUnder .exitHasOutgoing).toFinset =
      ((d.inspect p).nodesUnder .controlFromExit).toFinset ∧
    ∀ entry, d.nodesOf .entry = [entry] →
      ((∃ i ∈ (d.inspect p).issues, i.rule = .entryHasIncoming) ↔
        ∃ i ∈ (d.inspect p).issues, i.rule = .controlIntoEntry) := by
  by_cases hnodes : d.nodes = []
  · have hissues : (d.inspect p).issues = [.graphEmpty] := Inspection.issues_of_no_nodes hnodes
    simp [Report.nodesUnder, hissues, Issue.rule]
  have hnode : ∀ {id n}, d.node? id = some n ↔ n ∈ d.nodes ∧ n.id = id :=
    find?_eq_some_iff_of_nodup hids
  constructor
  · ext id
    rw [List.mem_toFinset, List.mem_toFinset, mem_nodesUnder_exitHasOutgoing hnodes,
      mem_nodesUnder_controlFromExit hnodes]
    simp only [hnode, and_assoc]
  · intro entry hentry
    rw [exists_entryHasIncoming_iff hnodes hentry, exists_controlIntoEntry_iff hnodes]
    refine exists_congr fun e => and_congr_right fun _ => ?_
    constructor
    · intro htarget
      have hsole := mem_of_nodesOf hentry
      exact ⟨entry, hnode.mpr ⟨hsole.1, htarget.symm⟩, hsole.2⟩
    · rintro ⟨n, hn, hrole⟩
      obtain ⟨hmem, hid⟩ := hnode.mp hn
      rw [← hid, eq_of_nodesOf hentry hmem hrole]

/-- Two edges leave the exit `"t"`. What leaves `"u"` does not count: a loop, a data edge and an edge
into nowhere. -/
theorem Diagram.entry_exit_rules_agree_at_loops :
    let s : Node := { id := "s", role := .entry }
    let d : Diagram :=
      { nodes := [s, { id := "a", role := .operation }, { id := "t", role := .exit },
          { id := "u", role := .exit }]
        edges := [{ id := "1", source := "s", target := "a" },
          { id := "2", source := "t", target := "a" }, { id := "3", source := "u", target := "u" },
          { id := "4", source := "u", target := "a", statedFlow := some .data },
          { id := "5", source := "u", target := "y" }, { id := "6", source := "t", target := "s" }] }
    (d.ids.Nodup ∧ d.nodesOf .entry = [s]) ∧
      (d.inspect .empty).nodesUnder .controlFromExit = ["t", "t"] ∧
      ((d.inspect .empty).nodesUnder .exitHasOutgoing).toFinset = {"t"} ∧
      ∃ i ∈ (d.inspect .empty).issues, i.rule = .entryHasIncoming := by
  intro s d
  have hids : d.ids.Nodup := by simp [d, s, ids]
  have hsole : d.nodesOf .entry = [s] := rfl
  have hnames : (d.inspect .empty).nodesUnder .controlFromExit = ["t", "t"] := by cbv
  have hrules : rulesOf (d.issues .empty) = [.controlFromExit, .edgeSelfLoop, .dataFromExit,
      .edgeMissingNode, .controlFromExit, .controlIntoEntry, .entryHasIncoming, .exitHasOutgoing,
      .exitNoIncoming, .exitNoIncoming, .nodeUnreachable] := by cbv
  have hinto : ∃ i ∈ (d.inspect .empty).issues, i.rule = .controlIntoEntry :=
    List.mem_map.mp (show .controlIntoEntry ∈ rulesOf (d.issues .empty) by simp [hrules])
  obtain ⟨hexits, hentries⟩ := entry_exit_rules_agree d .empty hids
  refine ⟨⟨hids, hsole⟩, hnames, ?_, (hentries s hsole).mpr hinto⟩
  rw [hexits, hnames]
  rfl

end Blueprint
