import Blueprint.Proofs.Execution

/-!
# Proofs: diagrams in another order

A diagram holds its nodes and edges in the order of their declaration. Where names are distinct,
that order does not show in what the diagram means: which node a name stands for, where control
goes, what executes, and which variables are read.
-/

namespace Blueprint

open Relation

/-- Two orders of one list: both are empty, both hold the same member, or both hold several. -/
theorem perm_cases {α : Type} {xs ys : List α} (h : xs.Perm ys) :
    (xs = [] ∧ ys = []) ∨ (∃ x, xs = [x] ∧ ys = [x]) ∨
      ∃ a b rest a' b' rest', xs = a :: b :: rest ∧ ys = a' :: b' :: rest' := by
  match xs, ys, h with
  | [], _, h => exact Or.inl ⟨rfl, h.nil_eq.symm⟩
  | [x], _, h => exact Or.inr (Or.inl ⟨x, rfl, h.singleton_eq.symm⟩)
  | _ :: _ :: _, [], h => simp at h
  | _ :: _ :: _, [_], h => simp at h
  | _ :: _ :: _, _ :: _ :: _, _ => exact Or.inr (Or.inr ⟨_, _, _, _, _, _, rfl, rfl⟩)

/-- Control goes along edges, in whatever order these are. -/
theorem controlStep_congr {edges edges' : List Edge} (h : ∀ e, e ∈ edges ↔ e ∈ edges') :
    ControlStep edges = ControlStep edges' := by
  funext a b
  simp only [ControlStep, h]

/-- Where keys are distinct, a key belongs to the one member that has it. -/
theorem find?_eq_some_iff_of_nodup {α : Type} {key : α → String} {xs : List α}
    (hnodup : (xs.map key).Nodup) {k : String} {x : α} :
    xs.find? (key · == k) = some x ↔ x ∈ xs ∧ key x = k := by
  constructor
  · intro h
    exact ⟨List.mem_of_find?_eq_some h, by simpa using List.find?_some h⟩
  · rintro ⟨hx, rfl⟩
    obtain ⟨y, hy⟩ : ∃ y, xs.find? (key · == key x) = some y := by
      rw [← Option.isSome_iff_exists, List.find?_isSome]
      exact ⟨x, hx, by simp⟩
    have hkey : key y = key x := by simpa using List.find?_some hy
    rw [hy, List.inj_on_of_nodup_map hnodup (List.mem_of_find?_eq_some hy) hx hkey]

theorem find?_of_perm {α : Type} {key : α → String} {xs ys : List α}
    (hnodup : (xs.map key).Nodup) (hperm : xs.Perm ys) (k : String) :
    xs.find? (key · == k) = ys.find? (key · == k) := by
  have hnodup' : (ys.map key).Nodup := (hperm.map key).nodup_iff.mp hnodup
  apply Option.ext
  intro x
  rw [find?_eq_some_iff_of_nodup hnodup, find?_eq_some_iff_of_nodup hnodup', hperm.mem_iff]

namespace Diagram

/-- Two diagrams of the same nodes, with distinct names, and the same edges, in whatever order. -/
structure Reordered (d d' : Diagram) : Prop where
  nodup : d.ids.Nodup
  nodes : d.nodes.Perm d'.nodes
  edges : d.edges.Perm d'.edges

namespace Reordered

variable {d d' : Diagram} {p : Palette}

theorem symm (h : d.Reordered d') : d'.Reordered d :=
  ⟨(h.nodes.map _).nodup_iff.mp h.nodup, h.nodes.symm, h.edges.symm⟩

theorem ids (h : d.Reordered d') : d.ids.Perm d'.ids := h.nodes.map _

theorem nodesOf (h : d.Reordered d') (role : Role) : (d.nodesOf role).Perm (d'.nodesOf role) :=
  h.nodes.filter _

theorem node?_eq (h : d.Reordered d') : d.node? = d'.node? := by
  funext id
  exact find?_of_perm h.nodup h.nodes id

theorem controlStep_eq (h : d.Reordered d') : ControlStep d.edges = ControlStep d'.edges :=
  controlStep_congr fun _ => h.edges.mem_iff

/-! ## What executes -/

theorem reached_eq (h : d.Reordered d') : d.Reached = d'.Reached := by
  funext id
  simp only [Reached, h.nodes.mem_iff, h.controlStep_eq]

theorem unordered_eq (h : d.Reordered d') : d.Unordered = d'.Unordered := by
  funext id
  simp only [Unordered, h.reached_eq, h.controlStep_eq]

theorem assigns (h : d.Reordered d') {n : Node} {v : String} (hn : d.Assigns n v) :
    d'.Assigns n v :=
  ⟨h.node?_eq ▸ hn.first, h.reached_eq ▸ hn.reached, hn.role, hn.bound⟩

theorem assigns_iff (h : d.Reordered d') {n : Node} {v : String} :
    d.Assigns n v ↔ d'.Assigns n v :=
  ⟨h.assigns, h.symm.assigns⟩

/-- The same assignments execute, though maybe in another order. -/
theorem assignments (h : d.Reordered d') (v : String) :
    ((Execution.of d).assignments v).Perm ((Execution.of d').assignments v) := by
  refine (List.perm_ext_iff_of_nodup ?_ ?_).mpr fun n => ?_
  · exact (Execution.nodup_assignments v).of_map
  · exact (Execution.nodup_assignments v).of_map
  · rw [Execution.mem_assignments, Execution.mem_assignments, h.assigns_iff]

theorem isTainted_eq (h : d.Reordered d') (v : String) :
    (Execution.of d).isTainted v = (Execution.of d').isTainted v := by
  rw [Bool.eq_iff_iff, Execution.isTainted_iff, Execution.isTainted_iff, h.unordered_eq]
  simp only [h.assigns_iff]

theorem valueFeeds (h : d.Reordered d') (n : Node) : (d.valueFeeds n).Perm (d'.valueFeeds n) :=
  h.edges.filter _

theorem origin_eq (h : d.Reordered d') (e : Edge) :
    (Execution.of d).origin p e = (Execution.of d').origin p e := by
  unfold Execution.origin
  rw [Execution.of_diagram, Execution.of_diagram, h.node?_eq]

/-- One value to take is the same one in any order, and several are several. -/
theorem supply_eq (h : d.Reordered d') (n : Node) :
    (Execution.of d).supply p n = (Execution.of d').supply p n := by
  unfold Execution.supply
  rw [Execution.feeds_of, Execution.feeds_of]
  rcases perm_cases (h.valueFeeds n) with ⟨hf, hf'⟩ | ⟨e, hf, hf'⟩ | ⟨_, _, _, _, _, _, hf, hf'⟩
  · rw [hf, hf']
  · rw [hf, hf']
    exact h.origin_eq e
  · rw [hf, hf']

theorem reads (h : d.Reordered d') {v w : String} (hr : d.Reads p v w) : d'.Reads p v w := by
  obtain ⟨n, e, hn, hf, hc⟩ := hr
  have hs : (Execution.of d').supply p n = .copied w := by
    rw [← h.supply_eq n]
    exact Execution.supply_eq_copied.mpr ⟨e, hf, hc⟩
  obtain ⟨e', hf', hc'⟩ := Execution.supply_eq_copied.mp hs
  exact ⟨n, e', h.assigns hn, hf', hc'⟩

theorem reads_iff (h : d.Reordered d') {v w : String} : d.Reads p v w ↔ d'.Reads p v w :=
  ⟨h.reads, h.symm.reads⟩

end Reordered

end Diagram

end Blueprint
