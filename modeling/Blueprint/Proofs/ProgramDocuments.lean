import Blueprint.Proofs.Inspection
import Blueprint.Proofs.Reading

/-!
# Proofs: documents of programs

The inspection excuses a node from being reached by the category of its type, not by its role. What
a document is read as keeps the two together, as long as the palette does (`FilesByRole`): a node has
the role of its type, or a coarse type without a place in the palette, or it is a custom node. So in
a document without errors execution comes to every node but variable nodes, and it never comes to
one twice.
-/

namespace Blueprint

open Relation

/-- A chain of steps that cannot go round goes through no point twice. -/
theorem nodup_of_isChain {α : Type} {step : α → α → Prop} (hacyclic : ∀ x, ¬ TransGen step x x)
    {walk : List α} (h : walk.IsChain step) : walk.Nodup := by
  have hwalk : walk.IsChain (TransGen step) := h.imp fun _ _ => TransGen.single
  refine (List.isChain_iff_pairwise.mp hwalk).imp ?_
  rintro a b hab rfl
  exact hacyclic a hab

/-- The palette lists variable nodes only under variables, and custom nodes somewhere else. -/
structure Palette.FilesByRole (p : Palette) : Prop where
  type : ∀ t ∈ p.types, t.category = .memory → t.role.refersToVariable = true
  custom : ∀ t ∈ p.types, t.name = "Custom" → t.category ≠ .memory

theorem Palette.standard_filesByRole : standard.FilesByRole := ⟨by decide, by decide⟩

/-- Only roles that refer to a variable have the category of variables for their own. -/
theorem Role.refersToVariable_of_category {role : Role} (h : role.category = .memory) :
    role.refersToVariable = true := by
  cases role <;> first | rfl | cases h

theorem Palette.find?_eq_some {p : Palette} {name : String} {t : NodeType}
    (h : p.find? name = some t) : t ∈ p.types ∧ t.name = name := by
  unfold find? at h
  exact ⟨List.mem_of_find?_eq_some h, by simpa using List.find?_some h⟩

namespace Document

variable {p : Palette}

/-- What a list is read as was read from its members. -/
theorem exists_of_mem_readEach {α β : Type} {read : Nat → α → Load β} {k : Nat} {xs : List α}
    {ws : List Warning} {bs : List β} (h : readEach read k xs = ⟨ws, .ok bs⟩) {b : β}
    (hb : b ∈ bs) : ∃ j, ∃ a ∈ xs, ∃ ws', read j a = ⟨ws', .ok b⟩ := by
  induction xs generalizing k ws bs with
  | nil =>
    cases h
    cases hb
  | cons a xs ih =>
    rw [readEach] at h
    obtain ⟨ws₁, b', ws₂, hread, h, -⟩ := Load.bind_eq_ok.mp h
    obtain ⟨ws₃, rest, ws₄, hrest, h, -⟩ := Load.bind_eq_ok.mp h
    cases h
    rcases List.mem_cons.mp hb with rfl | hb
    · exact ⟨k, a, List.mem_cons_self .., ws₁, hread⟩
    · obtain ⟨j, a', ha', hread'⟩ := ih hrest hb
      exact ⟨j, a', List.mem_cons_of_mem _ ha', hread'⟩

/-- A node is read with a type whose role is known, or else as a custom node. -/
theorem readType_cases {node stated typeName : String} {role : Role} {ws : List Warning}
    (h : readType p node stated = ⟨ws, .ok (typeName, role)⟩) :
    knownRole? p typeName = some role ∨ typeName = "Custom" ∧ role = .custom := by
  unfold readType at h
  split at h
  · next hknown =>
    cases h
    exact Or.inl hknown
  · cases h
    exact Or.inr ⟨rfl, rfl⟩

theorem refersToVariable_of_readType (hp : p.FilesByRole) {n : Node} {stated : String}
    {ws : List Warning} (h : readType p n.id stated = ⟨ws, .ok (n.typeName, n.role)⟩)
    (hcategory : p.category n = .memory) : n.role.refersToVariable = true := by
  unfold Palette.category at hcategory
  cases hfound : p.find? n.typeName with
  | none =>
    rw [hfound] at hcategory
    exact Role.refersToVariable_of_category hcategory
  | some t =>
    rw [hfound] at hcategory
    obtain ⟨hmem, hname⟩ := Palette.find?_eq_some hfound
    rcases readType_cases h with hknown | ⟨hcustom, -⟩
    · rw [knownRole?, hfound] at hknown
      have hrole : t.role = n.role := Option.some.inj hknown
      rw [← hrole]
      exact hp.type t hmem hcategory
    · exact absurd hcategory (hp.custom t hmem (hname.trans hcustom))

theorem refersToVariable_of_readNode (hp : p.FilesByRole) {k : Nat} {v : Value}
    {ws : List Warning} {n : Node} (h : readNode p k v = ⟨ws, .ok n⟩)
    (hcategory : p.category n = .memory) : n.role.refersToVariable = true := by
  obtain ⟨record, hmap, -⟩ := Load.lift_bind_eq_ok.mp h
  obtain rfl := asMap_eq_ok.mp hmap
  obtain ⟨-, detail, stated, -, -, htype, -⟩ := readNode_eq_ok.mp h
  exact refersToVariable_of_readType hp htype hcategory

/-- Of the nodes of a document only those that refer to a variable count as variable nodes. -/
theorem refersToVariable_of_readDiagram (hp : p.FilesByRole) {v : Value} {d : Diagram}
    (h : (readDiagram p v).result = .ok d) {n : Node} (hn : n ∈ d.nodes)
    (hcategory : p.category n = .memory) : n.role.refersToVariable = true := by
  obtain ⟨record, nodeItems, edgeItems, -, -, hnodes, -, -⟩ :=
    readDiagram_eq_ok.mp (Load.eq_ok_of_result h)
  obtain ⟨k, item, -, ws, hread⟩ := exists_of_mem_readEach hnodes hn
  exact refersToVariable_of_readNode hp hread hcategory

end Document

/-- Execution comes to every node of a program that does not count as a variable node. -/
theorem Diagram.IsProgram.reached_of_category {d : Diagram} {p : Palette} {entry : Node}
    (h : d.IsProgram p entry) {n : Node} (hn : n ∈ d.nodes) (hcategory : p.category n ≠ .memory) :
    ReflTransGen (ControlStep d.edges) entry.id n.id := by
  by_cases hrole : n.role = .entry
  · rw [eq_of_nodesOf h.entry_only hn hrole]
  · rcases h.reached n hn hrole with hwalk | ⟨hmemory, -⟩
    · exact hwalk
    · exact absurd hmemory hcategory

/-- **What a document without errors guarantees.** If a document is read with the standard palette as
a diagram without errors, there is one entry, control comes from it to every node that is not for
declaring, reading or assigning a variable, thus to every exit, and no walk along control edges comes
to a node twice. -/
theorem Document.program_of_readDiagram {v : Value} {d : Diagram}
    (hread : (readDiagram .standard v).result = .ok d)
    (hok : (d.inspect .standard).ok = true) :
    ∃ entry, d.nodesOf .entry = [entry] ∧
      (∀ n ∈ d.nodes, n.role ≠ .storage → n.role ≠ .read → n.role ≠ .assign →
        ReflTransGen (ControlStep d.edges) entry.id n.id) ∧
      (∀ n ∈ d.nodes, n.role = .exit → ReflTransGen (ControlStep d.edges) entry.id n.id) ∧
      ∀ walk : List String, walk.IsChain (ControlStep d.edges) → walk.Nodup := by
  obtain ⟨entry, hprogram⟩ := Inspection.isProgram_of_harmless (Report.ok_iff.mp hok)
  have hreached : ∀ n ∈ d.nodes, n.role.refersToVariable = false →
      ReflTransGen (ControlStep d.edges) entry.id n.id := by
    intro n hn hrole
    refine hprogram.reached_of_category hn fun hcategory => ?_
    have := refersToVariable_of_readDiagram Palette.standard_filesByRole hread hn hcategory
    rw [hrole] at this
    cases this
  refine ⟨entry, hprogram.entry_only, ?_, ?_, fun walk => nodup_of_isChain hprogram.acyclic⟩
  · intro n hn hstorage hread hassign
    refine hreached n hn ?_
    cases hrole : n.role <;> first | rfl | contradiction
  · intro n hn hrole
    exact hreached n hn (by rw [hrole]; rfl)

/-- The type nested in the second node counts, not its own; the type of the third one is unknown; the
variable is not reached. -/
theorem Document.program_of_readDiagram_of_unknown_type :
    let node (id type : String) : Value := .map [(.str "id", .str id), (.str "type", .str type)]
    let edge (id source target : String) : Value :=
      .map [(.str "id", .str id), (.str "source", .str source), (.str "target", .str target)]
    let v : Value := .map
      [(.str "nodes", .list [node "s" "Start",
        .map [(.str "id", .str "p"), (.str "type", .str "Variable"),
          (.str "blueprintNode", .map [(.str "type", .str "Event")])],
        node "g" "Ghost", node "x" "Variable", node "e" "End"]),
       (.str "edges", .list [edge "1" "s" "p", edge "2" "p" "g", edge "3" "g" "e"])]
    let start : Node := { id := "s", role := .entry, typeName := "Start", outputs := [.execOut] }
    let last : Node := { id := "e", role := .exit, typeName := "End", inputs := [.execIn] }
    let d : Diagram :=
      { nodes := [start,
          { id := "p", role := .operation, typeName := "Event", outputs := [.execOut] },
          { id := "g", role := .custom, inputs := [.execIn], outputs := [.execOut] },
          { id := "x", role := .storage, typeName := "Variable",
            outputs := [.output "value" .any] },
          last]
        edges := [{ id := "1", source := "s", target := "p" },
          { id := "2", source := "p", target := "g" }, { id := "3", source := "g", target := "e" }] }
    (readDiagram .standard v).result = .ok d ∧ (d.inspect .standard).ok = true ∧
      ReflTransGen (ControlStep d.edges) start.id last.id ∧
      ∀ walk : List String, walk.IsChain (ControlStep d.edges) → walk.Nodup := by
  intro node edge v start last d
  have hread : (readDiagram .standard v).result = .ok d := rfl
  have hok : (d.inspect .standard).ok = true := by cbv
  obtain ⟨entry, hentry, -, hexit, hwalks⟩ := program_of_readDiagram hread hok
  have hstart : d.nodesOf .entry = [start] := rfl
  obtain rfl : entry = start := List.singleton_inj.mp (hentry.symm.trans hstart)
  exact ⟨hread, hok, hexit last (by simp [d]) rfl, hwalks⟩

end Blueprint
