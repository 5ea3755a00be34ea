import Mathlib
import Blueprint.Diagram.Control
import Blueprint.Proofs.BreadthFirst
import Blueprint.Proofs.Loop
import Blueprint.Proofs.Looping

/-!
# Proofs: control flow

The links of control edges have one step for each control edge, so what is said of searches over
links is said of control edges. The nodes of a diagram are found by their names.
-/

namespace Blueprint

open Relation

namespace Diagram

variable {d : Diagram}

theorem node?_eq_some {id : String} {n : Node} (h : d.node? id = some n) :
    n ∈ d.nodes ∧ n.id = id := by
  unfold node? at h
  exact ⟨List.mem_of_find?_eq_some h, by simpa using List.find?_some h⟩

theorem hasNode_iff {id : String} : d.hasNode id = true ↔ id ∈ d.ids := by
  unfold hasNode node? ids
  rw [List.find?_isSome, List.mem_map]
  simp

theorem mem_ids_of_node? {id : String} {n : Node} (h : d.node? id = some n) : id ∈ d.ids :=
  hasNode_iff.mp (by rw [hasNode, h]; rfl)

/-- The first node of a name. -/
theorem exists_node? {id : String} (h : id ∈ d.ids) : ∃ n, d.node? id = some n :=
  Option.isSome_iff_exists.mp (hasNode_iff.mpr h)

theorem mem_nodesOf {role : Role} {n : Node} :
    n ∈ d.nodesOf role ↔ n ∈ d.nodes ∧ n.role = role := by
  unfold nodesOf
  rw [List.mem_filter]
  simp

/-- The only node of a role is there and has it. -/
theorem mem_of_nodesOf {role : Role} {n : Node} (h : d.nodesOf role = [n]) :
    n ∈ d.nodes ∧ n.role = role := by
  rw [← mem_nodesOf, h]
  exact List.mem_singleton_self n

theorem eq_of_nodesOf {role : Role} {m n : Node} (h : d.nodesOf role = [m]) (hn : n ∈ d.nodes)
    (hrole : n.role = role) : n = m := by
  have hmem : n ∈ d.nodesOf role := mem_nodesOf.mpr ⟨hn, hrole⟩
  rw [h] at hmem
  exact List.mem_singleton.mp hmem

end Diagram

/-- Control goes from one name to another along an edge. -/
def ControlStep (edges : List Edge) (a b : String) : Prop :=
  ∃ e ∈ edges, e.flow = .control ∧ e.source = a ∧ e.target = b

theorem step_controlLinks (edges : List Edge) :
    (controlLinks edges).Step = ControlStep edges := by
  funext a b
  apply propext
  unfold controlLinks
  rw [Links.step_ofPairs, List.mem_map]
  constructor
  · rintro ⟨e, he, heq⟩
    obtain ⟨hmem, hc⟩ := List.mem_filter.mp he
    exact ⟨e, hmem, by simpa [Edge.isControl] using hc, (Prod.mk.inj heq).1, (Prod.mk.inj heq).2⟩
  · rintro ⟨e, hmem, hc, rfl, rfl⟩
    exact ⟨e, List.mem_filter.mpr ⟨hmem, by simpa [Edge.isControl] using hc⟩, rfl⟩

/-- The names that control goes to from a name, in the order of the edges. -/
def controlTargets (edges : List Edge) (a : String) : List String :=
  (edges.filter fun e => e.flow = .control ∧ e.source = a).map (·.target)

theorem next_controlLinks (edges : List Edge) (a : String) :
    (controlLinks edges).next a = controlTargets edges a := by
  unfold controlLinks controlTargets
  rw [Links.next_ofPairs, List.filter_map, List.map_map, List.filter_filter]
  congr 1
  refine List.filter_congr fun e _ => ?_
  simp [Edge.isControl, and_comm]

/-- **The search for a control cycle is sound and complete.** As a loop over the path it comes to an
end, with one answer. What it reports ends where it begins, holds no other name twice, follows
control edges and can be come to from a listed node; it reports nothing exactly if nothing that can
be come to lies on a closed walk. -/
theorem controlLoop_sound_complete (nodes : List Node) (edges : List Edge) :
    (∀ found, (controlLinks edges).Searches (nodes.map (·.id)) [] [] found ↔
      (controlLinks edges).loop? (nodes.map (·.id)) = found) ∧
    (∀ walk, (controlLinks edges).loop? (nodes.map (·.id)) = some walk →
      2 ≤ walk.length ∧ walk.head? = walk.getLast? ∧ walk.dropLast.Nodup ∧
      walk.IsChain (ControlStep edges) ∧
      ∀ x ∈ walk, ∃ n ∈ nodes, ReflTransGen (ControlStep edges) n.id x) ∧
    ((controlLinks edges).loop? (nodes.map (·.id)) = none ↔
      ¬ ∃ x, TransGen (ControlStep edges) x x ∧
        ∃ n ∈ nodes, ReflTransGen (ControlStep edges) n.id x) := by
  refine ⟨fun found => Links.searches_iff, ?_, ?_⟩
  · intro walk h
    obtain ⟨hloop, hreach⟩ := Links.isLoop_of_loop? h
    rw [step_controlLinks] at hreach
    refine ⟨hloop.length_le, hloop.ends, hloop.nodup, step_controlLinks edges ▸ hloop.chain, ?_⟩
    intro x hx
    obtain ⟨t, ht, hwalk⟩ := hreach x hx
    obtain ⟨n, hn, rfl⟩ := List.mem_map.mp ht
    exact ⟨n, hn, hwalk⟩
  · rw [Links.loop?_eq_none_iff, step_controlLinks]
    constructor
    · rintro h ⟨x, hxx, n, hn, hwalk⟩
      exact h n.id (List.mem_map.mpr ⟨n, hn, rfl⟩) x hwalk hxx
    · intro h t ht x hwalk hxx
      obtain ⟨n, hn, rfl⟩ := List.mem_map.mp ht
      exact h ⟨x, hxx, n, hn, hwalk⟩

/-- A cycle of two names, behind an entry that is not on it. -/
theorem controlLoop_behind_entry :
    let nodes : List Node := [{ id := "a", role := .entry }]
    let edges : List Edge :=
      [{ id := "1", source := "a", target := "b" }, { id := "2", source := "b", target := "c" },
       { id := "3", source := "c", target := "b", statedFlow := some .control }]
    (controlLinks edges).loop? (nodes.map (·.id)) = some ["b", "c", "b"] ∧
      (controlLinks edges).Searches (nodes.map (·.id)) [] [] (some ["b", "c", "b"]) ∧
      ["b", "c", "b"].IsChain (ControlStep edges) ∧
      ∀ x ∈ ["b", "c", "b"], ∃ n ∈ nodes, ReflTransGen (ControlStep edges) n.id x := by
  intro nodes edges
  have h : (controlLinks edges).loop? (nodes.map (·.id)) = some ["b", "c", "b"] := by cbv
  obtain ⟨hrun, hsound, -⟩ := controlLoop_sound_complete nodes edges
  obtain ⟨-, -, -, hchain, hreach⟩ := hsound _ h
  exact ⟨h, (hrun _).mpr h, hchain, hreach⟩

end Blueprint
