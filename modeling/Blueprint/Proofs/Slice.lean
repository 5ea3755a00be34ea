import Blueprint.Proofs.Agreement

/-!
# Proofs: what the preview does not look at

The preview follows control from the entries, and looks at the assignments it comes to and at the
data edges that bring values to these. A node elsewhere is looked at as the source of such an edge
only: for its role, its type and the variable it is bound to. The rest of a diagram does not show,
that is, data edges that arrive elsewhere or at another port, and the labels and entered values of
nodes that are not executed.
-/

namespace Blueprint

namespace Node

/-- Two nodes that are the same but for their labels and the value entered by hand. -/
structure SameButEntered (n n' : Node) : Prop where
  id : n.id = n'.id
  role : n.role = n'.role
  typeName : n.typeName = n'.typeName
  inputs : n.inputs = n'.inputs
  outputs : n.outputs = n'.outputs
  settings : ∀ name, name ≠ valueSetting → name ≠ overrideSetting →
    n.settings.get? name = n'.settings.get? name

namespace SameButEntered

variable {n n' : Node}

theorem refl (n : Node) : n.SameButEntered n := ⟨rfl, rfl, rfl, rfl, rfl, fun _ _ _ => rfl⟩

theorem boundTo?_eq (h : n.SameButEntered n') : n.boundTo? = n'.boundTo? := by
  have hsetting : n.settings.get? variableSetting = n'.settings.get? variableSetting :=
    h.settings variableSetting (by decide) (by decide)
  unfold boundTo? ports
  rw [hsetting, h.inputs, h.outputs]

theorem isVariable_eq (h : n.SameButEntered n') (p : Palette) :
    p.isVariable n = p.isVariable n' := by
  unfold Palette.isVariable Palette.category
  rw [h.typeName, h.role]

end SameButEntered

end Node

namespace Diagram

/-- Two nodes that are the same. If execution does not come to them, their labels and the values
entered by hand may differ. -/
def SameInSlice (d : Diagram) (n n' : Node) : Prop :=
  n = n' ∨ ¬ d.Reached n.id ∧ n.SameButEntered n'

/-- A data edge brings a value to an assignment that execution comes to. -/
def Supplies (d : Diagram) (e : Edge) : Prop :=
  e.flow = .data ∧ d.Reached e.target ∧
    ∃ n ∈ d.node? e.target, n.role = .assign ∧ n.takesValueAt e.ports.2 = true

/-- The edges that the preview looks at. -/
def InSlice (d : Diagram) (e : Edge) : Prop := e.flow = .control ∨ d.Supplies e

instance (d : Diagram) : DecidablePred d.Reached :=
  fun id => decidable_of_iff (id ∈ (Execution.of d).order) Execution.mem_order

instance (d : Diagram) : DecidablePred d.InSlice := fun e =>
  inferInstanceAs (Decidable (e.flow = .control ∨ e.flow = .data ∧ d.Reached e.target ∧
    ∃ n ∈ d.node? e.target, n.role = .assign ∧ n.takesValueAt e.ports.2 = true))

/-- Two diagrams of which the preview sees the same. -/
structure SameSlice (d d' : Diagram) : Prop where
  nodes : List.Forall₂ d.SameInSlice d.nodes d'.nodes
  edges : d.edges.filter d.InSlice = d'.edges.filter d.InSlice

namespace SameSlice

variable {d d' : Diagram} {p : Palette}

/-- Edges picked from those that the preview looks at are the same. -/
theorem filter_edges (h : d.SameSlice d') (pick : Edge → Bool)
    (hpick : ∀ e, pick e = true → d.InSlice e) : d.edges.filter pick = d'.edges.filter pick := by
  have hfrom : ∀ edges : List Edge, (edges.filter d.InSlice).filter pick = edges.filter pick := by
    intro edges
    rw [List.filter_filter]
    refine List.filter_congr fun e _ => ?_
    cases he : pick e with
    | false => rfl
    | true => simpa using hpick e he
  rw [← hfrom, h.edges, hfrom]

theorem control_eq (h : d.SameSlice d') : d.control = d'.control :=
  control_congr (h.filter_edges _ fun e he => Or.inl (by simpa [Edge.isControl] using he))

/-! ## Nodes -/

theorem sameButEntered {n n' : Node} (h : d.SameInSlice n n') : n.SameButEntered n' := by
  rcases h with rfl | ⟨-, h⟩
  · exact .refl n
  · exact h

theorem entryIds_eq (h : d.SameSlice d') : d.entryIds = d'.entryIds := by
  have hnodes := h.nodes
  unfold entryIds nodesOf
  generalize d.nodes = nodes, d'.nodes = nodes' at hnodes
  induction hnodes with
  | nil => rfl
  | @cons n n' nodes nodes' hn _ ih =>
    have hsame := sameButEntered hn
    rw [List.filter_cons, List.filter_cons, hsame.role]
    split
    · rw [List.map_cons, List.map_cons, hsame.id, ih]
    · exact ih

/-- A name stands for no node in both diagrams, or for two that are the same in the slice. -/
theorem node?_cases (h : d.SameSlice d') (id : String) :
    (d.node? id = none ∧ d'.node? id = none) ∨
      ∃ n n', d.node? id = some n ∧ d'.node? id = some n' ∧ d.SameInSlice n n' := by
  have hnodes := h.nodes
  unfold node?
  generalize d.nodes = nodes, d'.nodes = nodes' at hnodes
  induction hnodes with
  | nil => exact Or.inl ⟨rfl, rfl⟩
  | @cons n n' nodes nodes' hn _ ih =>
    rw [List.find?_cons, List.find?_cons, (sameButEntered hn).id]
    cases n'.id == id with
    | true => exact Or.inr ⟨n, n', rfl, rfl, hn⟩
    | false => exact ih

theorem node?_of_reached (h : d.SameSlice d') {id : String} (hid : d.Reached id) :
    d.node? id = d'.node? id := by
  rcases h.node?_cases id with ⟨hn, hn'⟩ | ⟨n, n', hn, hn', rfl | ⟨hidle, -⟩⟩
  · rw [hn, hn']
  · rw [hn, hn']
  · rw [(node?_eq_some hn).2] at hidle
    exact absurd hid hidle

/-! ## Execution -/

theorem execution_eq (h : d.SameSlice d') :
    Execution.of d' = { Execution.of d with diagram := d' } :=
  Execution.of_congr h.entryIds_eq h.control_eq

theorem assignments_eq (h : d.SameSlice d') (v : String) :
    (Execution.of d).assignments v = (Execution.of d').assignments v := by
  have hfound : (Execution.of d).order.filterMap d.node? =
      (Execution.of d).order.filterMap d'.node? :=
    List.filterMap_congr fun id hid => h.node?_of_reached (Execution.mem_order.mp hid)
  rw [h.execution_eq]
  unfold Execution.assignments
  rw [Execution.of_diagram, hfound]

theorem isTainted_eq (h : d.SameSlice d') (v : String) :
    (Execution.of d).isTainted v = (Execution.of d').isTainted v := by
  unfold Execution.isTainted
  rw [h.assignments_eq, h.execution_eq]

/-- An executed assignment has its values brought by edges of the slice. -/
theorem valueFeeds_eq (h : d.SameSlice d') {n : Node} {v : String} (hn : d.Assigns n v) :
    d.valueFeeds n = d'.valueFeeds n := by
  refine h.filter_edges _ fun e he => Or.inr ?_
  obtain ⟨hflow, htarget, htakes⟩ := of_decide_eq_true he
  have hreached : d.Reached e.target := by rw [htarget]; exact hn.reached
  have hfirst : d.node? e.target = some n := by rw [htarget]; exact hn.first
  exact ⟨hflow, hreached, n, hfirst, hn.role, htakes⟩

theorem origin_eq (h : d.SameSlice d') (e : Edge) :
    (Execution.of d).origin p e = (Execution.of d').origin p e := by
  unfold Execution.origin
  rw [Execution.of_diagram, Execution.of_diagram]
  rcases h.node?_cases e.source with ⟨hn, hn'⟩ | ⟨n, n', hn, hn', hsame⟩
  · rw [hn, hn']
  · rw [hn, hn']
    simp only [(sameButEntered hsame).isVariable_eq p, (sameButEntered hsame).boundTo?_eq]

theorem supply_eq (h : d.SameSlice d') {n : Node} {v : String} (hn : d.Assigns n v) :
    (Execution.of d).supply p n = (Execution.of d').supply p n := by
  unfold Execution.supply
  rw [Execution.feeds_of, Execution.feeds_of, h.valueFeeds_eq hn]
  simp only [h.origin_eq]

end SameSlice

/-- **Only what is executed shows in the preview.** The resolutions stay the same if data edges are
added or removed that bring no value to an executed assignment: their target is not come to from an
entry, or its first node assigns nothing, or they arrive at a port where it takes no value. They stay
the same if nodes that are not come to get other labels or other values entered by hand. -/
theorem preview_of_same_slice (p : Palette) (declarations : List Declaration) (d d' : Diagram)
    (hnodes : List.Forall₂ d.SameInSlice d.nodes d'.nodes)
    (hedges : d.edges.filter d.InSlice = d'.edges.filter d.InSlice) :
    d.preview p declarations = d'.preview p declarations := by
  have h : d.SameSlice d' := ⟨hnodes, hedges⟩
  refine preview_congr ?_ h.assignments_eq h.isTainted_eq fun v n hn => ?_
  · rw [h.entryIds_eq]
  · exact h.supply_eq (Execution.mem_assignments.mp hn)

/-- `"a"` copies `"y"` from `"c"`, which is not executed. The edges into `"b"`, which is not executed
either, and into the control port of `"a"` go, others come to the entry and to no node, and values
are entered at `"b"` and `"c"`. -/
theorem preview_beside_idle_changes :
    let go : Port := { id := "go", dataType := .control }
    let bound (v : String) : Port := { id := "out", variableId := some v }
    let s : Node := { id := "s", role := .entry }
    let a : Node := { id := "a", role := .assign, inputs := [go], outputs := [bound "x"] }
    let b : Node := { id := "b", role := .assign, outputs := [bound "x"] }
    let c : Node := { id := "c", role := .read, outputs := [bound "y"] }
    let entered : Settings :=
      ⟨[(Node.valueSetting, .int 3), (Node.overrideSetting, .bool true)], by decide⟩
    let b' : Node := { b with label := "B", settings := entered }
    let c' : Node := { c with label := "C", settings := entered }
    let start : Edge := { id := "1", source := "s", target := "a" }
    let data (id source target port : String) : Edge :=
      { id, source, target, targetPort := some port, statedFlow := some .data }
    let copy : Edge := data "2" "c" "a" "value"
    let d : Diagram :=
      { nodes := [s, a, b, c]
        edges := [start, copy, data "3" "b" "a" "go", data "4" "c" "b" "value"] }
    let d' : Diagram :=
      { nodes := [s, a, b', c']
        edges := [data "5" "a" "s" "value", start, copy, data "6" "c" "y" "value"] }
    let declare (v value : String) : Declaration := { id := v, name := v, default := .str value }
    let declarations := [declare "x" "off", declare "y" "on"]
    (List.Forall₂ d.SameInSlice d.nodes d'.nodes ∧
      d.edges.filter d.InSlice = d'.edges.filter d.InSlice) ∧
      d.edges.filter d.InSlice = [start, copy] ∧
      d.preview .empty declarations = d'.preview .empty declarations ∧
      ((d'.preview .empty declarations).lookup "x").map (·.value) = some (.str "on") := by
  intro go bound s a b c entered b' c' start data copy d d' declare declarations
  have horder : (Execution.of d).order = ["s", "a"] := by cbv
  have hidle : ∀ id, id ∉ ["s", "a"] → ¬ d.Reached id := by
    intro id hid hreached
    exact hid (horder ▸ Execution.mem_order.mpr hreached)
  have hentered : ∀ name, name ≠ Node.valueSetting → name ≠ Node.overrideSetting →
      Settings.empty.get? name = entered.get? name := by
    intro name hvalue hoverride
    have hvalue' : (name == Node.valueSetting) = false := beq_false_of_ne hvalue
    have hoverride' : (name == Node.overrideSetting) = false := beq_false_of_ne hoverride
    simp [Settings.get?, Settings.empty, entered, List.lookup_cons, hvalue', hoverride']
  have hb : d.SameInSlice b b' :=
    Or.inr ⟨hidle "b" (by decide), rfl, rfl, rfl, rfl, rfl, hentered⟩
  have hc : d.SameInSlice c c' :=
    Or.inr ⟨hidle "c" (by decide), rfl, rfl, rfl, rfl, rfl, hentered⟩
  have hnodes : List.Forall₂ d.SameInSlice d.nodes d'.nodes :=
    .cons (Or.inl rfl) (.cons (Or.inl rfl) (.cons hb (.cons hc .nil)))
  have hslice : d.edges.filter d.InSlice = [start, copy] := by cbv
  have hslice' : d'.edges.filter d.InSlice = [start, copy] := by cbv
  have hsame := preview_of_same_slice .empty declarations d d' hnodes (hslice.trans hslice'.symm)
  refine ⟨⟨hnodes, hslice.trans hslice'.symm⟩, hslice, hsame, ?_⟩
  rw [← hsame]
  cbv

end Diagram

end Blueprint
