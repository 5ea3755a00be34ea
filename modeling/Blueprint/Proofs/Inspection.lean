import Blueprint.Inspection.Basic
import Blueprint.Proofs.Control

/-!
# Proofs: what a diagram without errors is

`IsProgram` says, without any rule or search, which diagrams a program can be made of. Each rule of
the inspection is shown to be free of errors (`Harmless`) exactly if the diagram meets a condition;
together these conditions are `IsProgram`.
-/

namespace Blueprint

open Relation

/-! ## Legal edges -/

namespace Diagram

variable {d : Diagram}

/-- Both ends of an edge are nodes, and two different ones. -/
def Joins (d : Diagram) (e : Edge) : Prop :=
  e.source ∈ d.ids ∧ e.target ∈ d.ids ∧ e.source ≠ e.target

theorem isLegal_iff {e : Edge} : d.isLegal e = true ↔ d.Joins e := by
  unfold isLegal Joins Edge.isLoop
  simp only [Bool.and_eq_true, hasNode_iff, Bool.not_eq_true', decide_eq_false_iff_not, and_assoc]

theorem mem_legalEdges {e : Edge} : e ∈ d.legalEdges ↔ e ∈ d.edges ∧ d.Joins e := by
  unfold legalEdges
  rw [List.mem_filter, isLegal_iff]

theorem mem_legalControl {e : Edge} :
    e ∈ d.legalControl ↔ (e ∈ d.edges ∧ d.Joins e) ∧ e.flow = .control := by
  unfold legalControl
  rw [List.mem_filter, mem_legalEdges]
  simp [Edge.isControl]

theorem mem_reach_legalControl {a b : String} :
    b ∈ (controlLinks d.legalControl).reach [a] ↔ ReflTransGen (ControlStep d.legalControl) a b := by
  rw [Links.mem_reach_iff, step_controlLinks]
  simp

/-- If all edges are legal, control goes along the legal edges and no others. -/
theorem controlStep_legalControl (h : ∀ e ∈ d.edges, d.Joins e) :
    ControlStep d.legalControl = ControlStep d.edges := by
  funext a b
  apply propext
  constructor
  · rintro ⟨e, he, hc, ha, hb⟩
    exact ⟨e, (mem_legalControl.mp he).1.1, hc, ha, hb⟩
  · rintro ⟨e, he, hc, ha, hb⟩
    exact ⟨e, mem_legalControl.mpr ⟨⟨he, h e he⟩, hc⟩, hc, ha, hb⟩

theorem soleEntry?_eq_some {entry : Node} (h : d.nodesOf .entry = [entry]) :
    d.soleEntry? = some entry := by
  unfold soleEntry?
  rw [h]

theorem nodesOf_of_soleEntry {entry : Node} (h : d.soleEntry? = some entry) :
    d.nodesOf .entry = [entry] := by
  unfold soleEntry? at h
  split at h
  · next sole hentries =>
    obtain rfl : sole = entry := Option.some.inj h
    exact hentries
  · cases h

end Diagram

/-! ## Issues that are no errors -/

/-- None of the issues is an error. -/
def Harmless (found : List Issue) : Prop := ∀ i ∈ found, i.severity ≠ .error

namespace Harmless

theorem nil : Harmless [] := by
  intro i hi
  simp at hi

theorem append {xs ys : List Issue} : Harmless (xs ++ ys) ↔ Harmless xs ∧ Harmless ys := by
  unfold Harmless
  simp only [List.mem_append, or_imp, forall_and]

theorem flatMap {α : Type} {xs : List α} {f : α → List Issue} :
    Harmless (xs.flatMap f) ↔ ∀ x ∈ xs, Harmless (f x) := by
  unfold Harmless
  constructor
  · intro h x hx i hi
    exact h i (List.mem_flatMap.mpr ⟨x, hx, hi⟩)
  · intro h i hi
    obtain ⟨x, hx, hi⟩ := List.mem_flatMap.mp hi
    exact h x hx i hi

/-- A rule that weighs as an error must not find anything. -/
theorem issueIf_error {condition : Bool} {i : Issue} (hi : i.severity = .error) :
    Harmless (Inspection.issueIf condition i) ↔ condition = false := by
  unfold Inspection.issueIf Harmless
  cases condition <;> simp [hi]

/-- A rule that weighs as a warning may find what it likes. -/
theorem issueIf_warning {condition : Bool} {i : Issue} (hi : i.severity = .warning) :
    Harmless (Inspection.issueIf condition i) := by
  unfold Inspection.issueIf Harmless
  cases condition <;> simp [hi]

theorem not_singleton {i : Issue} (hi : i.severity = .error) : ¬ Harmless [i] :=
  fun h => h i (List.mem_singleton_self i) hi

theorem map_warning {α : Type} {xs : List α} {f : α → Issue} (hf : ∀ x, (f x).severity = .warning) :
    Harmless (xs.map f) := by
  intro i hi
  obtain ⟨x, -, rfl⟩ := List.mem_map.mp hi
  simp [hf]

end Harmless

theorem Report.ok_iff {r : Report} : r.ok = true ↔ Harmless r.issues := by
  unfold Report.ok Report.errors Report.messages Harmless
  rw [List.isEmpty_iff, List.map_eq_nil_iff, List.filter_eq_nil_iff]
  simp

/-! ## The rules -/

namespace Inspection

variable {d : Diagram} {p : Palette}

theorem harmless_entryCount :
    Harmless (entryCount d) ↔ ∃ entry, d.nodesOf .entry = [entry] := by
  unfold entryCount
  match d.nodesOf .entry with
  | [] => simpa using Harmless.not_singleton rfl
  | [entry] => simpa using Harmless.nil
  | _ :: _ :: _ => simpa using Harmless.not_singleton rfl

theorem harmless_exitCount : Harmless (exitCount d) ↔ ∃ n ∈ d.nodes, n.role = .exit := by
  unfold exitCount
  rw [Harmless.issueIf_error rfl, List.isEmpty_eq_false_iff_exists_mem]
  simp only [Diagram.mem_nodesOf]

/-- What the ends of a control edge must not be. -/
def ControlEnds (d : Diagram) (e : Edge) : Prop :=
  (∀ n, d.node? e.source = some n → n.role ≠ .exit) ∧
    ∀ n, d.node? e.target = some n → n.role ≠ .entry

/-- What the ends of a data edge must not be. -/
def DataEnds (d : Diagram) (e : Edge) : Prop :=
  (∀ n, d.node? e.source = some n → n.role ≠ .entry ∧ n.role ≠ .exit) ∧
    ∀ n, d.node? e.target = some n → n.role ≠ .entry

theorem harmless_controlEdge {e : Edge} {source target : Node}
    (hs : d.node? e.source = some source) (ht : d.node? e.target = some target) :
    Harmless (controlEdge e source target) ↔ ControlEnds d e := by
  unfold controlEdge ControlEnds
  rw [Harmless.append, Harmless.issueIf_error rfl, Harmless.issueIf_error rfl, hs, ht]
  simp

theorem harmless_dataEdge {e : Edge} {source target : Node}
    (hs : d.node? e.source = some source) (ht : d.node? e.target = some target) :
    Harmless (dataEdge e source target) ↔ DataEnds d e := by
  unfold dataEdge DataEnds
  rw [Harmless.append, Harmless.issueIf_error rfl, Harmless.issueIf_error rfl, hs, ht]
  simp only [Bool.or_eq_false_iff, decide_eq_false_iff_not, Option.some.injEq, ne_eq, forall_eq']
  tauto

theorem harmless_edge {position : Nat} {e : Edge} :
    Harmless (edge d position e) ↔ d.Joins e ∧ (e.flow = .control → ControlEnds d e) ∧
      (e.flow = .data → DataEnds d e) := by
  by_cases hends : e.source ∈ d.ids ∧ e.target ∈ d.ids
  · obtain ⟨source, hs⟩ := Diagram.exists_node? hends.1
    obtain ⟨target, ht⟩ := Diagram.exists_node? hends.2
    unfold edge
    rw [hs, ht]
    by_cases hloop : e.source = e.target
    · have hnot : ¬ d.Joins e := fun h => h.2.2 hloop
      simp only [Edge.isLoop, hloop, decide_true, if_true]
      simpa [hnot] using Harmless.not_singleton rfl
    · have hjoins : d.Joins e := ⟨hends.1, hends.2, hloop⟩
      simp only [Edge.isLoop, hloop, decide_false, Bool.false_eq_true, if_false]
      cases hf : e.flow with
      | control => simpa [hjoins] using harmless_controlEdge hs ht
      | data => simpa [hjoins] using harmless_dataEdge hs ht
  · have hnot : ¬ d.Joins e := fun h => hends ⟨h.1, h.2.1⟩
    have hmissing : edge d position e = [.edgeMissingNode position e] := by
      unfold edge
      split
      · rename_i source target hs ht
        exact absurd ⟨Diagram.mem_ids_of_node? hs, Diagram.mem_ids_of_node? ht⟩ hends
      · rfl
    rw [hmissing]
    simpa [hnot] using Harmless.not_singleton rfl

theorem harmless_everyEdge :
    Harmless (everyEdge d) ↔ ∀ e ∈ d.edges, d.Joins e ∧ (e.flow = .control → ControlEnds d e) ∧
      (e.flow = .data → DataEnds d e) := by
  unfold everyEdge
  rw [Harmless.flatMap]
  constructor
  · intro h e he
    obtain ⟨k, hk⟩ := List.mem_iff_getElem?.mp he
    have := h (e, k + 1) (List.mem_zipIdx_iff_le_and_getElem?_sub.mpr ⟨by omega, by simpa using hk⟩)
    exact harmless_edge.mp this
  · rintro h ⟨e, k⟩ hk
    obtain ⟨-, hget⟩ := List.mem_zipIdx_iff_le_and_getElem?_sub.mp hk
    exact harmless_edge.mpr (h e (List.mem_of_getElem? hget))

theorem harmless_controlPresent :
    Harmless (controlPresent d) ↔ 1 < d.nodes.length → ∃ e, e ∈ d.legalControl := by
  unfold controlPresent
  rw [Harmless.issueIf_error rfl, ← List.isEmpty_eq_false_iff_exists_mem]
  simp

theorem harmless_duplicates : Harmless (duplicates d) := by
  unfold duplicates
  exact Harmless.map_warning fun _ => rfl

theorem harmless_entryEdges {entry : Node} (h : d.nodesOf .entry = [entry]) :
    Harmless (entryEdges d) ↔ ∀ e ∈ d.legalControl, e.target ≠ entry.id := by
  unfold entryEdges
  rw [Diagram.soleEntry?_eq_some h]
  simp only [Harmless.append, Harmless.issueIf_error (i := .entryHasIncoming entry) rfl,
    Harmless.issueIf_warning (i := .entryNoOutgoing entry) rfl, and_true]
  simp

theorem harmless_exitEdges :
    Harmless (exitEdges d) ↔
      ∀ n ∈ d.nodes, n.role = .exit → ∀ e ∈ d.legalControl, e.source ≠ n.id := by
  unfold exitEdges
  simp only [Harmless.flatMap, Harmless.append, Diagram.mem_nodesOf, and_imp]
  refine forall₃_congr fun n _ _ => ?_
  rw [Harmless.issueIf_error rfl]
  simp [Harmless.issueIf_warning (i := .exitNoIncoming n) rfl]

/-- A node of this kind need not be reached: it is a variable node without control ports. -/
theorem isPureData_iff {n : Node} :
    isPureData p n = true ↔
      p.category n = .memory ∧ ∀ port ∈ n.ports, port.dataType ≠ .control := by
  unfold isPureData Palette.isVariable Node.hasControlPort Port.isControl DataType.isControl
  simp

theorem harmless_reachability {entry : Node} (h : d.nodesOf .entry = [entry])
    (hc : ∃ e, e ∈ d.legalControl) :
    Harmless (reachability d p) ↔ ∀ n ∈ d.nodes, n.role ≠ .entry →
      ReflTransGen (ControlStep d.legalControl) entry.id n.id ∨ isPureData p n = true := by
  have hempty : d.legalControl.isEmpty = false := List.isEmpty_eq_false_iff_exists_mem.mpr hc
  have hnil : unreached d p entry = [] ↔ ∀ n ∈ d.nodes, n.role ≠ .entry →
      ReflTransGen (ControlStep d.legalControl) entry.id n.id ∨ isPureData p n = true := by
    unfold unreached
    rw [List.filter_eq_nil_iff]
    refine forall₂_congr fun n _ => ?_
    rw [← Diagram.mem_reach_legalControl]
    simp only [ne_eq, decide_not, List.contains_eq_mem, Bool.and_eq_true, Bool.not_eq_eq_eq_not,
      Bool.not_true, decide_eq_false_iff_not, not_and, Bool.not_eq_false, and_imp]
    tauto
  rw [← hnil]
  unfold reachability
  rw [Diagram.soleEntry?_eq_some h]
  simp only [hempty, Bool.false_eq_true, if_false]
  cases hu : unreached d p entry with
  | nil => simpa using Harmless.nil
  | cons n rest => simpa using Harmless.not_singleton rfl

theorem harmless_cycles :
    Harmless (cycles d) ↔ ∀ id ∈ d.ids, ∀ x, ReflTransGen (ControlStep d.legalControl) id x →
      ¬ TransGen (ControlStep d.legalControl) x x := by
  rw [← step_controlLinks, ← Links.loop?_eq_none_iff]
  unfold cycles
  cases hl : (controlLinks d.legalControl).loop? d.ids with
  | none => simpa using Harmless.nil
  | some walk => simpa using Harmless.not_singleton rfl

theorem harmless_variableLinks : Harmless (variableLinks d p) := by
  unfold variableLinks
  exact Harmless.map_warning fun _ => rfl

end Inspection

/-! ## Programs -/

/-- A program can be made of the diagram, and it starts at the entry. -/
structure Diagram.IsProgram (d : Diagram) (p : Palette) (entry : Node) : Prop where
  /-- There is one entry. -/
  entry_only : d.nodesOf .entry = [entry]
  /-- There is an exit. -/
  exit_exists : ∃ n ∈ d.nodes, n.role = .exit
  /-- Edges lead from nodes to other nodes. -/
  edge_ends : ∀ e ∈ d.edges, e.source ∈ d.ids ∧ e.target ∈ d.ids ∧ e.source ≠ e.target
  /-- Some edge carries control. -/
  control_exists : ∃ e ∈ d.edges, e.flow = .control
  /-- Control does not come back to the entry. -/
  control_target : ∀ e ∈ d.edges, e.flow = .control → e.target ≠ entry.id
  /-- Control does not leave an exit. -/
  control_source : ∀ e ∈ d.edges, e.flow = .control →
    ∀ n ∈ d.nodes, n.role = .exit → e.source ≠ n.id
  /-- Data does not come from an entry or an exit. -/
  data_source : ∀ e ∈ d.edges, e.flow = .data →
    ∀ n, d.node? e.source = some n → n.role ≠ .entry ∧ n.role ≠ .exit
  /-- Data does not go to an entry. -/
  data_target : ∀ e ∈ d.edges, e.flow = .data →
    ∀ n, d.node? e.target = some n → n.role ≠ .entry
  /-- Control comes from the entry to every other node, variable nodes without control ports
  excepted. -/
  reached : ∀ n ∈ d.nodes, n.role ≠ .entry →
    ReflTransGen (ControlStep d.edges) entry.id n.id ∨
      p.category n = .memory ∧ ∀ port ∈ n.ports, port.dataType ≠ .control
  /-- Control does not go round. -/
  acyclic : ∀ x, ¬ TransGen (ControlStep d.edges) x x

namespace Inspection

variable {d : Diagram} {p : Palette}

/-- A diagram has no errors if none of the rules finds one. -/
theorem harmless_issues :
    Harmless (d.issues p) ↔ d.nodes ≠ [] ∧ Harmless (entryCount d) ∧ Harmless (exitCount d) ∧
      Harmless (everyEdge d) ∧ Harmless (controlPresent d) ∧ Harmless (entryEdges d) ∧
      Harmless (exitEdges d) ∧ Harmless (reachability d p) ∧ Harmless (cycles d) := by
  unfold Diagram.issues
  by_cases hnodes : d.nodes = []
  · simp only [hnodes, List.isEmpty_nil, if_true]
    simpa using Harmless.not_singleton rfl
  · have hempty : d.nodes.isEmpty = false := by simpa using hnodes
    simp only [hempty, Bool.false_eq_true, if_false, Harmless.append, harmless_duplicates,
      harmless_variableLinks]
    tauto

/-- The nodes of a diagram with an entry and an exit are more than one. -/
theorem one_lt_length {entry : Node} (h : d.nodesOf .entry = [entry])
    (hexit : ∃ n ∈ d.nodes, n.role = .exit) : 1 < d.nodes.length := by
  obtain ⟨n, hn, hrole⟩ := hexit
  have hentry := Diagram.mem_of_nodesOf h
  by_contra hlen
  match hl : d.nodes with
  | [] => rw [hl] at hn; simp at hn
  | [m] =>
    rw [hl, List.mem_singleton] at hn
    rw [hl, List.mem_singleton] at hentry
    rw [hn, ← hentry.1, hentry.2] at hrole
    cases hrole
  | _ :: _ :: _ => rw [hl] at hlen; simp at hlen

theorem isProgram_of_harmless (h : Harmless (d.issues p)) : ∃ entry, d.IsProgram p entry := by
  obtain ⟨-, hentry, hexit, hedges, hpresent, hin, hout, hreach, hcycles⟩ := harmless_issues.mp h
  obtain ⟨entry, hentry⟩ := harmless_entryCount.mp hentry
  have hexit := harmless_exitCount.mp hexit
  have hedges := harmless_everyEdge.mp hedges
  have hjoins : ∀ e ∈ d.edges, d.Joins e := fun e he => (hedges e he).1
  have hcontrol : ∀ e ∈ d.edges, e.flow = .control → e ∈ d.legalControl := fun e he hc =>
    Diagram.mem_legalControl.mpr ⟨⟨he, hjoins e he⟩, hc⟩
  have hsome := harmless_controlPresent.mp hpresent (one_lt_length hentry hexit)
  have hreach := (harmless_reachability hentry hsome).mp hreach
  have hcycles := harmless_cycles.mp hcycles
  rw [Diagram.controlStep_legalControl hjoins] at hreach hcycles
  refine ⟨entry, hentry, hexit, hjoins, ?_, ?_, ?_, ?_, ?_, ?_, ?_⟩
  · obtain ⟨e, he⟩ := hsome
    obtain ⟨⟨he, -⟩, hc⟩ := Diagram.mem_legalControl.mp he
    exact ⟨e, he, hc⟩
  · intro e he hc
    exact (harmless_entryEdges hentry).mp hin e (hcontrol e he hc)
  · intro e he hc n hn hrole
    exact harmless_exitEdges.mp hout n hn hrole e (hcontrol e he hc)
  · intro e he hc
    exact ((hedges e he).2.2 hc).1
  · intro e he hc
    exact ((hedges e he).2.2 hc).2
  · intro n hn hrole
    exact (hreach n hn hrole).imp_right isPureData_iff.mp
  · -- a closed walk goes through the target of an edge, which is a node
    intro x hloop
    obtain ⟨b, -, e, he, -, -, htarget⟩ := TransGen.tail'_iff.mp hloop
    exact hcycles x (htarget ▸ (hjoins e he).2.1) x .refl hloop

theorem harmless_of_isProgram {entry : Node} (h : d.IsProgram p entry) :
    Harmless (d.issues p) := by
  have hjoins : ∀ e ∈ d.edges, d.Joins e := h.edge_ends
  have hsome : ∃ e, e ∈ d.legalControl := by
    obtain ⟨e, he, hc⟩ := h.control_exists
    exact ⟨e, Diagram.mem_legalControl.mpr ⟨⟨he, hjoins e he⟩, hc⟩⟩
  have hedge : ∀ {e}, e ∈ d.legalControl → e ∈ d.edges ∧ e.flow = .control := fun he =>
    ⟨(Diagram.mem_legalControl.mp he).1.1, (Diagram.mem_legalControl.mp he).2⟩
  refine harmless_issues.mpr ⟨?_, harmless_entryCount.mpr ⟨entry, h.entry_only⟩,
    harmless_exitCount.mpr h.exit_exists, ?_, ?_, ?_, ?_, ?_, ?_⟩
  · intro hnil
    have := one_lt_length h.entry_only h.exit_exists
    rw [hnil] at this
    simp at this
  · refine harmless_everyEdge.mpr fun e he => ⟨hjoins e he, fun hc => ⟨?_, ?_⟩, fun hc =>
      ⟨h.data_source e he hc, h.data_target e he hc⟩⟩
    · intro n hn hrole
      obtain ⟨hmem, hid⟩ := Diagram.node?_eq_some hn
      exact h.control_source e he hc n hmem hrole hid.symm
    · intro n hn hrole
      obtain ⟨hmem, hid⟩ := Diagram.node?_eq_some hn
      exact h.control_target e he hc (by rw [← hid, Diagram.eq_of_nodesOf h.entry_only hmem hrole])
  · exact harmless_controlPresent.mpr fun _ => hsome
  · refine (harmless_entryEdges h.entry_only).mpr fun e he => ?_
    exact h.control_target e (hedge he).1 (hedge he).2
  · refine harmless_exitEdges.mpr fun n hn hrole e he => ?_
    exact h.control_source e (hedge he).1 (hedge he).2 n hn hrole
  · refine (harmless_reachability h.entry_only hsome).mpr fun n hn hrole => ?_
    rw [Diagram.controlStep_legalControl hjoins]
    exact (h.reached n hn hrole).imp_right isPureData_iff.mpr
  · refine harmless_cycles.mpr fun id _ x _ => ?_
    rw [Diagram.controlStep_legalControl hjoins]
    exact h.acyclic x

end Inspection

/-- **The inspection is sound and complete.** It finds no error exactly in those diagrams that a
program can be made of. -/
theorem Diagram.inspect_ok_iff_isProgram (d : Diagram) (p : Palette) :
    (d.inspect p).ok = true ↔ ∃ entry, d.IsProgram p entry := by
  rw [Report.ok_iff]
  constructor
  · exact Inspection.isProgram_of_harmless
  · rintro ⟨entry, h⟩
    exact Inspection.harmless_of_isProgram h

-- the diagram that a new document starts with is such a one
example : (Diagram.starter.inspect .empty).ok = true := by cbv

end Blueprint
