import Blueprint.Proofs.Inspection

/-!
# Proofs: what issues refer to

An issue carries nodes, edges or names, and what it refers to is read off these. Each part of the
inspection takes them from the diagram (`IsAbout`): nodes from its nodes, edges from its edges, and
the names of a cycle from legal edges, whose ends are two different nodes.
-/

namespace Blueprint

open Relation

/-- What is repeated is a member of the list. -/
theorem mem_of_mem_repeated {α β : Type} [DecidableEq β] {key : α → β} {seen : List β}
    {xs : List α} {x : α} (h : x ∈ repeated key seen xs) : x ∈ xs := by
  fun_induction repeated key seen xs with
  | case1 => cases h
  | case2 seen y xs hy ih =>
    rcases List.mem_cons.mp h with rfl | h
    · exact List.mem_cons_self ..
    · exact List.mem_cons_of_mem _ (ih h)
  | case3 seen y xs hy ih => exact List.mem_cons_of_mem _ (ih h)

/-- If no point is its own successor, a loop goes through two points at least. -/
theorem Links.IsLoop.two_le_length {α : Type} [DecidableEq α] {links : Links α} {walk : List α}
    (h : links.IsLoop walk) (hirrefl : ∀ x, ¬ links.Step x x) : 2 ≤ walk.dropLast.length := by
  match walk, h with
  | [], h => exact absurd h.length_le (by simp)
  | [_], h => exact absurd h.length_le (by simp)
  | [x, y], h =>
    obtain rfl : x = y := by simpa using h.ends
    exact absurd (List.isChain_pair.mp h.chain) (hirrefl x)
  | _ :: _ :: _ :: _, _ => simp

namespace Diagram

variable {d : Diagram}

theorem id_mem_ids {n : Node} (h : n ∈ d.nodes) : n.id ∈ d.ids := List.mem_map.mpr ⟨n, h, rfl⟩

/-- The only entry is one of the nodes. -/
theorem mem_nodes_of_soleEntry? {entry : Node} (h : d.soleEntry? = some entry) :
    entry ∈ d.nodes :=
  (mem_of_nodesOf (nodesOf_of_soleEntry h)).1

/-- The legal data edges are the data edges between two different nodes. -/
theorem mem_legalData {e : Edge} :
    e ∈ d.legalData ↔ (e ∈ d.edges ∧ d.Joins e) ∧ e.flow = .data := by
  unfold legalData
  rw [List.mem_filter, mem_legalEdges]
  simp [Edge.isData]

/-- A closed walk along control edges, through two nodes at least and through none of them twice. -/
structure IsCycle (d : Diagram) (walk : List String) : Prop where
  nodes : ∀ id ∈ walk, id ∈ d.ids
  chain : walk.IsChain (ControlStep d.edges)
  ends : walk.head? = walk.getLast?
  nodup : walk.dropLast.Nodup
  two_le : 2 ≤ walk.dropLast.length

/-- The cycle that is reported is one of the diagram: only legal edges are followed, and these join
two different nodes. -/
theorem isCycle_of_loop? {walk : List String}
    (h : (controlLinks d.legalControl).loop? d.ids = some walk) : d.IsCycle walk := by
  obtain ⟨hloop, hreach⟩ := Links.isLoop_of_loop? h
  have hstep : ∀ a b, (controlLinks d.legalControl).Step a b →
      ControlStep d.edges a b ∧ b ∈ d.ids ∧ a ≠ b := by
    intro a b hab
    rw [step_controlLinks] at hab
    obtain ⟨e, he, hc, rfl, rfl⟩ := hab
    obtain ⟨⟨hmem, -, htarget, hne⟩, -⟩ := mem_legalControl.mp he
    exact ⟨⟨e, hmem, hc, rfl, rfl⟩, htarget, hne⟩
  refine ⟨?_, hloop.chain.imp fun a b hab => (hstep a b hab).1, hloop.ends, hloop.nodup, ?_⟩
  · intro id hid
    obtain ⟨start, hstart, hwalk⟩ := hreach id hid
    rcases hwalk.cases_tail with rfl | ⟨a, -, ha⟩
    · exact hstart
    · exact (hstep a id ha).2.1
  · exact hloop.two_le_length fun a ha => (hstep a a ha).2.2 rfl

end Diagram

/-- What the issue carries is in the diagram. The ends of an edge are nodes wherever the issue refers
to them. -/
def Issue.IsAbout (d : Diagram) : Issue → Prop
  | entryMultiple nodes | nodeUnreachable nodes => ∀ n ∈ nodes, n ∈ d.nodes
  | entryHasIncoming n | entryNoOutgoing n | exitHasOutgoing n | exitNoIncoming n => n ∈ d.nodes
  | edgeMissingNode _ e | edgeDuplicate e => e ∈ d.edges
  | edgeSelfLoop e | controlFromExit e _ | controlIntoEntry e _ | dataTouchesEntry e
  | dataFromExit e | dataVariableToVariable e =>
    e ∈ d.edges ∧ e.source ∈ d.ids ∧ e.target ∈ d.ids
  | controlCycle walk => d.IsCycle walk
  | graphEmpty | entryMissing | exitMissing | noControlFlow => True

namespace Issue.IsAbout

variable {d : Diagram} {i : Issue}

/-- The nodes that the issue gives are those of the diagram. -/
theorem nodes (h : i.IsAbout d) : ∀ id ∈ i.nodes, id ∈ d.ids := by
  intro id hid
  cases i with
  | entryMultiple entries | nodeUnreachable nodes =>
    obtain ⟨n, hn, rfl⟩ := List.mem_map.mp hid
    exact Diagram.id_mem_ids (h n hn)
  | entryHasIncoming n | entryNoOutgoing n | exitHasOutgoing n | exitNoIncoming n =>
    obtain rfl := List.mem_singleton.mp hid
    exact Diagram.id_mem_ids h
  | edgeSelfLoop e | controlFromExit e _ | dataFromExit e =>
    obtain rfl := List.mem_singleton.mp hid
    exact h.2.1
  | controlIntoEntry e _ =>
    obtain rfl := List.mem_singleton.mp hid
    exact h.2.2
  | dataTouchesEntry e | dataVariableToVariable e =>
    rcases List.mem_pair.mp hid with rfl | rfl
    · exact h.2.1
    · exact h.2.2
  | controlCycle walk => exact Diagram.IsCycle.nodes h id hid
  | graphEmpty | entryMissing | exitMissing | noControlFlow | edgeMissingNode _ _
  | edgeDuplicate _ => cases hid

/-- The edges that the issue gives are those of the diagram. -/
theorem edges (h : i.IsAbout d) : ∀ id ∈ i.edges, ∃ e ∈ d.edges, e.id = id := by
  intro id hid
  cases i with
  | edgeMissingNode _ e | edgeDuplicate e =>
    obtain rfl := List.mem_singleton.mp hid
    exact ⟨e, h, rfl⟩
  | edgeSelfLoop e | controlFromExit e _ | controlIntoEntry e _ | dataTouchesEntry e
  | dataFromExit e | dataVariableToVariable e =>
    obtain rfl := List.mem_singleton.mp hid
    exact ⟨e, h.1, rfl⟩
  | graphEmpty | entryMissing | entryMultiple _ | exitMissing | noControlFlow
  | entryHasIncoming _ | entryNoOutgoing _ | exitHasOutgoing _ | exitNoIncoming _
  | nodeUnreachable _ | controlCycle _ => cases hid

/-- The nodes that a control cycle gives are the cycle. -/
theorem cycle (h : i.IsAbout d) (hrule : i.rule = .controlCycle) : d.IsCycle i.nodes := by
  cases i with
  | controlCycle walk => exact h
  | _ => cases hrule

end Issue.IsAbout

/-! ## The parts of the inspection -/

namespace Inspection

variable {d : Diagram} {p : Palette}

/-- What holds of an issue holds of it under any condition. -/
theorem forall_mem_issueIf {P : Issue → Prop} {condition : Bool} {i : Issue} (h : P i) :
    ∀ j ∈ issueIf condition i, P j := by
  cases condition with
  | false => exact List.forall_mem_nil P
  | true => exact List.forall_mem_singleton.mpr h

/-- Several entries are nodes of the diagram. -/
theorem isAbout_entryCount : ∀ i ∈ entryCount d, i.IsAbout d := by
  unfold entryCount
  split
  · exact List.forall_mem_singleton.mpr trivial
  · exact List.forall_mem_nil _
  · refine List.forall_mem_singleton.mpr fun n hn => ?_
    exact (Diagram.mem_nodesOf.mp hn).1

/-- Past the first rule both ends of the edge are nodes. -/
theorem isAbout_edge {k : Nat} {e : Edge} (he : e ∈ d.edges) :
    ∀ i ∈ edge d k e, i.IsAbout d := by
  unfold edge
  split
  · next source target hs ht =>
    have hends : e ∈ d.edges ∧ e.source ∈ d.ids ∧ e.target ∈ d.ids :=
      ⟨he, Diagram.mem_ids_of_node? hs, Diagram.mem_ids_of_node? ht⟩
    split
    · exact List.forall_mem_singleton.mpr hends
    · split
      · exact List.forall_mem_append.mpr
          ⟨forall_mem_issueIf hends, forall_mem_issueIf hends⟩
      · exact List.forall_mem_append.mpr
          ⟨forall_mem_issueIf hends, forall_mem_issueIf hends⟩
  · exact List.forall_mem_singleton.mpr he

/-- Each edge is one of the diagram. -/
theorem isAbout_everyEdge : ∀ i ∈ everyEdge d, i.IsAbout d := by
  intro i hi
  obtain ⟨⟨e, k⟩, hmem, hi⟩ := List.mem_flatMap.mp hi
  exact isAbout_edge (List.fst_mem_of_mem_zipIdx hmem) i hi

/-- A repeated edge is a legal edge. -/
theorem isAbout_duplicates : ∀ i ∈ duplicates d, i.IsAbout d := by
  refine List.forall_mem_map.mpr fun e he => ?_
  exact (Diagram.mem_legalEdges.mp (mem_of_mem_repeated he)).1

theorem isAbout_entryEdges : ∀ i ∈ entryEdges d, i.IsAbout d := by
  unfold entryEdges
  split
  · next entry hentry =>
    have hmem : entry ∈ d.nodes := Diagram.mem_nodes_of_soleEntry? hentry
    exact List.forall_mem_append.mpr ⟨forall_mem_issueIf hmem, forall_mem_issueIf hmem⟩
  · exact List.forall_mem_nil _

/-- The exits are nodes of the diagram. -/
theorem isAbout_exitEdges : ∀ i ∈ exitEdges d, i.IsAbout d := by
  intro i hi
  obtain ⟨exit, hexit, hi⟩ := List.mem_flatMap.mp hi
  have hmem : exit ∈ d.nodes := (Diagram.mem_nodesOf.mp hexit).1
  exact List.forall_mem_append.mpr ⟨forall_mem_issueIf hmem, forall_mem_issueIf hmem⟩ i hi

/-- The nodes that are not reached are nodes of the diagram. -/
theorem isAbout_reachability : ∀ i ∈ reachability d p, i.IsAbout d := by
  unfold reachability
  split
  · split
    · exact List.forall_mem_nil _
    · split
      · exact List.forall_mem_nil _
      · refine List.forall_mem_singleton.mpr fun n hn => ?_
        exact (List.mem_filter.mp hn).1
  · exact List.forall_mem_nil _

/-- A cycle of the links of control is one of the diagram. -/
theorem isAbout_cycles : ∀ i ∈ cycles d, i.IsAbout d := by
  unfold cycles
  split
  · next hwalk => exact List.forall_mem_singleton.mpr (Diagram.isCycle_of_loop? hwalk)
  · exact List.forall_mem_nil _

/-- The data edges between variables are legal edges. -/
theorem isAbout_variableLinks : ∀ i ∈ variableLinks d p, i.IsAbout d := by
  refine List.forall_mem_map.mpr fun e he => ?_
  obtain ⟨⟨hmem, hsource, htarget, -⟩, -⟩ := Diagram.mem_legalData.mp (List.mem_filter.mp he).1
  exact ⟨hmem, hsource, htarget⟩

/-- Every part of the inspection takes what it reports from the diagram. -/
theorem isAbout_issues : ∀ i ∈ d.issues p, i.IsAbout d := by
  unfold Diagram.issues
  split
  · exact List.forall_mem_singleton.mpr trivial
  · simp only [List.forall_mem_append]
    exact ⟨⟨⟨⟨⟨⟨⟨⟨⟨isAbout_entryCount, forall_mem_issueIf trivial⟩, isAbout_everyEdge⟩,
      forall_mem_issueIf trivial⟩, isAbout_duplicates⟩, isAbout_entryEdges⟩, isAbout_exitEdges⟩,
      isAbout_reachability⟩, isAbout_cycles⟩, isAbout_variableLinks⟩

end Inspection

/-- **Issues refer to the diagram.** Every name that an issue gives of a node is the name of a node,
and every name that it gives of an edge is the name of an edge. The names that a control cycle gives
are a closed walk along control edges, through two nodes at least and through none of them twice. -/
theorem Diagram.issues_refer_to_diagram (d : Diagram) (p : Palette) :
    ∀ i ∈ (d.inspect p).issues,
      (∀ id ∈ i.nodes, id ∈ d.ids) ∧ (∀ id ∈ i.edges, ∃ e ∈ d.edges, e.id = id) ∧
      (i.rule = .controlCycle → i.nodes.IsChain (ControlStep d.edges) ∧
        i.nodes.head? = i.nodes.getLast? ∧ i.nodes.dropLast.Nodup ∧
        2 ≤ i.nodes.dropLast.length) := by
  intro i hi
  have habout : i.IsAbout d := Inspection.isAbout_issues i hi
  refine ⟨habout.nodes, habout.edges, fun hrule => ?_⟩
  have hcycle := habout.cycle hrule
  exact ⟨hcycle.chain, hcycle.ends, hcycle.nodup, hcycle.two_le⟩

/-- A cycle of two nodes, with an edge into nowhere and a loop leaving it. -/
theorem Diagram.issues_refer_to_diagram_of_cycle :
    let stray : Edge := { id := "4", source := "b", target := "y" }
    let loop : Edge := { id := "5", source := "b", target := "b" }
    let d : Diagram :=
      { nodes := [{ id := "s", role := .entry }, { id := "a", role := .operation },
          { id := "b", role := .operation }, { id := "x", role := .exit }]
        edges := [{ id := "1", source := "s", target := "a" },
          { id := "2", source := "a", target := "b" }, { id := "3", source := "b", target := "a" },
          stray, loop, { id := "6", source := "b", target := "x" }] }
    let i : Issue := .controlCycle ["a", "b", "a"]
    i ∈ (d.inspect .empty).issues ∧ (∀ id ∈ ["a", "b", "a"], id ∈ d.ids) ∧
      (∀ id ∈ i.edges, ∃ e ∈ d.edges, e.id = id) ∧
      ["a", "b", "a"].IsChain (ControlStep d.edges) := by
  intro stray loop d i
  have hissues : (d.inspect .empty).issues = [.edgeMissingNode 4 stray, .edgeSelfLoop loop, i] := by
    cbv
  have hmem : i ∈ (d.inspect .empty).issues := by simp [hissues]
  obtain ⟨hnodes, hedges, hcycle⟩ := issues_refer_to_diagram d .empty i hmem
  exact ⟨hmem, hnodes, hedges, (hcycle rfl).1⟩

end Blueprint
