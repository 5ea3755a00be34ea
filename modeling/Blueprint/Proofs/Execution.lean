import Blueprint.Preview.Execution
import Blueprint.Proofs.Control
import Blueprint.Proofs.Equality

/-!
# Proofs: what executes

What the preview computes of a diagram by searches and filters, said by walks along control edges:
which names execution comes to, which of them have no order, which nodes assign a variable, and
which variables these read.
-/

namespace Blueprint

open Relation

/-- Where an assigning node takes its value from. -/
inductive Supply where
  /-- Several edges bring values. -/
  | several
  /-- One edge brings a value that is not that of a variable. -/
  | computed
  /-- One edge brings the value of a variable. -/
  | copied (id : String)
  /-- No edge brings a value: it is the one entered by hand, if any, or the variable's default. -/
  | own (entered : Option Value)

/-- The variable whose value is supplied. -/
def Supply.source? : Supply → Option String
  | .copied v => some v
  | _ => none

namespace Diagram

/-- Execution comes to a name: control leads there from an entry. -/
def Reached (d : Diagram) (id : String) : Prop :=
  ∃ n ∈ d.nodes, n.role = .entry ∧ ReflTransGen (ControlStep d.edges) n.id id

/-- A name on, or behind, a control cycle that execution comes to. -/
def Unordered (d : Diagram) (id : String) : Prop :=
  ∃ c, d.Reached c ∧ TransGen (ControlStep d.edges) c c ∧
    ReflTransGen (ControlStep d.edges) c id

/-- A node that assigns a variable, and that execution comes to. -/
structure Assigns (d : Diagram) (n : Node) (v : String) : Prop where
  first : d.node? n.id = some n
  reached : d.Reached n.id
  role : n.role = .assign
  bound : n.boundTo? = some v

/-- A name stands for an assignment of a variable: the first node of that name assigns it. -/
def namesAssignment (d : Diagram) (v id : String) : Bool :=
  (d.node? id).any fun n => n.role = .assign ∧ n.boundTo? = some v

/-- The data edges that bring a value to an assigning node. -/
def valueFeeds (d : Diagram) (n : Node) : List Edge :=
  d.edges.filter fun e => e.flow = .data ∧ e.target = n.id ∧ n.takesValueAt e.ports.2 = true

/-- An edge comes from a variable node that is bound to a variable. -/
def Carries (d : Diagram) (p : Palette) (e : Edge) (v : String) : Prop :=
  ∃ source, d.node? e.source = some source ∧ p.category source = .memory ∧
    source.boundTo? = some v

/-- A variable reads another one: some assignment of it has one value to take, and that comes from
the other variable. -/
def Reads (d : Diagram) (p : Palette) (v w : String) : Prop :=
  ∃ n e, d.Assigns n v ∧ d.valueFeeds n = [e] ∧ d.Carries p e w

variable {d : Diagram} {p : Palette}

theorem Carries.unique {e : Edge} {v w : String} (hv : d.Carries p e v) (hw : d.Carries p e w) :
    v = w := by
  obtain ⟨source, hs, -, hb⟩ := hv
  obtain ⟨source', hs', -, hb'⟩ := hw
  rw [hs] at hs'
  cases hs'
  rw [hb] at hb'
  exact Option.some.inj hb'

theorem step_control : d.control.Step = ControlStep d.edges := step_controlLinks d.edges

theorem control_congr {d' : Diagram}
    (h : d.edges.filter (·.isControl) = d'.edges.filter (·.isControl)) :
    d.control = d'.control := by
  unfold control controlLinks
  rw [h]

theorem mem_entryIds {id : String} :
    id ∈ d.entryIds ↔ ∃ n ∈ d.nodes, n.role = .entry ∧ n.id = id := by
  unfold entryIds nodesOf
  simp [and_assoc]

theorem entryIds_eq_nil : d.entryIds = [] ↔ ¬ ∃ n ∈ d.nodes, n.role = .entry := by
  unfold entryIds nodesOf
  rw [List.map_eq_nil_iff, List.filter_eq_nil_iff]
  simp

end Diagram

namespace Execution

variable {d : Diagram} {p : Palette}

theorem of_diagram : (of d).diagram = d := rfl

/-- What is executed is found by the entries and the control links alone. -/
theorem of_congr {d' : Diagram} (hentries : d.entryIds = d'.entryIds)
    (hcontrol : d.control = d'.control) : of d' = { of d with diagram := d' } := by
  unfold of
  rw [hentries, hcontrol]

theorem mem_order {id : String} : id ∈ (of d).order ↔ d.Reached id := by
  show id ∈ d.control.reach d.entryIds ↔ _
  rw [Links.mem_reach_iff, Diagram.step_control]
  unfold Diagram.Reached
  constructor
  · rintro ⟨t, ht, hwalk⟩
    obtain ⟨n, hn, hrole, rfl⟩ := Diagram.mem_entryIds.mp ht
    exact ⟨n, hn, hrole, hwalk⟩
  · rintro ⟨n, hn, hrole, hwalk⟩
    exact ⟨n.id, Diagram.mem_entryIds.mpr ⟨n, hn, hrole, rfl⟩, hwalk⟩

theorem nodup_order : (of d).order.Nodup := Links.nodup_reach _

theorem mem_tainted {id : String} : id ∈ (of d).tainted ↔ d.Unordered id := by
  show id ∈ d.control.reach ((of d).order.filter (d.control.looping (of d).order).contains) ↔ _
  rw [Links.mem_reach_iff]
  unfold Diagram.Unordered
  refine exists_congr fun c => ?_
  rw [List.mem_filter, List.contains_iff_mem, Links.mem_looping_iff, mem_order,
    Diagram.step_control, and_assoc]
  refine and_congr_right fun hc => and_congr_left fun _ => ?_
  exact ⟨fun h => h.2, fun h => ⟨⟨c, mem_order.mpr hc, .refl⟩, h⟩⟩

/-! ## Assignments -/

theorem mem_assignments {n : Node} {v : String} : n ∈ (of d).assignments v ↔ d.Assigns n v := by
  unfold assignments
  rw [List.mem_filter, List.mem_filterMap]
  constructor
  · rintro ⟨⟨id, hid, hn⟩, hrole⟩
    have hnid := (Diagram.node?_eq_some hn).2
    subst hnid
    simp only [Bool.and_eq_true, decide_eq_true_eq, beq_iff_eq] at hrole
    exact ⟨hn, mem_order.mp hid, hrole.1, hrole.2⟩
  · intro h
    exact ⟨⟨n.id, mem_order.mpr h.reached, h.first⟩, by simp [h.role, h.bound]⟩

/-- The names of the assignments stand in the order of execution. -/
theorem map_id_assignments (v : String) :
    ((of d).assignments v).map (·.id) = (of d).order.filter (d.namesAssignment v) := by
  show (((of d).order.filterMap d.node?).filter _).map (·.id) = _
  generalize (of d).order = order
  induction order with
  | nil => rfl
  | cons id order ih =>
    cases h : d.node? id with
    | none =>
      have hno : d.namesAssignment v id = false := by simp [Diagram.namesAssignment, h]
      rw [List.filterMap_cons_none h, List.filter_cons_of_neg (by simp [hno])]
      exact ih
    | some n =>
      have hid : n.id = id := (Diagram.node?_eq_some h).2
      have hnames : d.namesAssignment v id = (n.role = .assign && n.boundTo? == some v) := by
        rw [Bool.eq_iff_iff]
        simp [Diagram.namesAssignment, h]
      rw [List.filterMap_cons_some h, List.filter_cons, List.filter_cons, hnames]
      split
      · rw [List.map_cons, ih, hid]
      · exact ih

/-- Assignments have different names. -/
theorem nodup_assignments (v : String) : (((of d).assignments v).map (·.id)).Nodup := by
  rw [map_id_assignments]
  exact nodup_order.filter _

/-- Execution that starts nowhere comes to no assignment. -/
theorem assignments_of_no_entry (h : ¬ ∃ n ∈ d.nodes, n.role = .entry) (v : String) :
    (of d).assignments v = [] := by
  rw [List.eq_nil_iff_forall_not_mem]
  intro n hn
  obtain ⟨entry, hentry, hrole, -⟩ := (mem_assignments.mp hn).reached
  exact h ⟨entry, hentry, hrole⟩

/-- Values that belong to the assignments are equal, any two of them, whichever executes first. -/
theorem pairwise_same_assignments (f : Node → Value) (v : String) :
    ((of d).assignments v).Pairwise (fun n m => (f n).same (f m) = true) ↔
      ∀ n m, d.Assigns n v → d.Assigns m v → n ≠ m → (f n).same (f m) = true := by
  constructor
  · intro h n m hn hm hne
    have : Std.Symm fun n m => (f n).same (f m) = true := ⟨fun _ _ => Value.same_symm⟩
    exact h.forall (mem_assignments.mpr hn) (mem_assignments.mpr hm) hne
  · intro h
    refine (nodup_assignments v).of_map.pairwise_of_forall_ne fun n hn m hm hne => ?_
    exact h n m (mem_assignments.mp hn) (mem_assignments.mp hm) hne

theorem isTainted_iff {v : String} :
    (of d).isTainted v = true ↔ ∃ n, d.Assigns n v ∧ d.Unordered n.id := by
  unfold isTainted
  rw [List.any_eq_true]
  refine exists_congr fun n => ?_
  rw [mem_assignments, List.contains_iff_mem, mem_tainted]

/-! ## Supplies

Which variables are copied, and what an assignment produces, are each read off the edges that bring
values. Both go by the supply of the assigning node. -/

/-- Where the value of a data edge comes from. -/
def origin (x : Execution) (p : Palette) (e : Edge) : Supply :=
  match x.diagram.node? e.source with
  | some source =>
    match p.isVariable source, source.boundTo? with
    | true, some v => .copied v
    | _, _ => .computed
  | none => .computed

/-- Where an assigning node takes its value from. -/
def supply (x : Execution) (p : Palette) (n : Node) : Supply :=
  match x.feeds n with
  | [] => .own n.override?
  | [e] => x.origin p e
  | _ => .several

/-- A node copies a variable if that is its supply. -/
theorem copied?_eq (x : Execution) (p : Palette) (n : Node) :
    x.copied? p n = (x.supply p n).source? := by
  unfold copied? supply
  rcases x.feeds n with _ | ⟨e, _ | ⟨e', rest⟩⟩
  · rfl
  · dsimp only [origin]
    cases x.diagram.node? e.source with
    | none => rfl
    | some source =>
      cases hp : p.isVariable source <;> cases hb : source.boundTo? <;>
        simp [Supply.source?, hp, hb]
  · rfl

theorem copies_eq (x : Execution) (p : Palette) (v : String) :
    x.copies p v = (x.assignments v).filterMap fun n => (x.supply p n).source? := by
  unfold copies
  exact List.filterMap_congr fun n _ => x.copied?_eq p n

theorem feeds_of (n : Node) : (of d).feeds n = d.valueFeeds n := by
  unfold feeds Diagram.valueFeeds
  apply List.filter_congr
  intro e _
  rw [Bool.eq_iff_iff]
  simp [Edge.isData, and_assoc]

/-- A data edge brings the value of a variable, or it cannot be told what it brings. -/
theorem origin_cases (p : Palette) (e : Edge) :
    (∃ w, d.Carries p e w ∧ (of d).origin p e = .copied w) ∨
    (¬ ∃ w, d.Carries p e w) ∧ (of d).origin p e = .computed := by
  unfold origin Diagram.Carries Palette.isVariable
  rw [of_diagram]
  cases d.node? e.source with
  | none => simp
  | some source =>
    by_cases hcat : p.category source = .memory
    · cases hb : source.boundTo? with
      | none => simp [hb]
      | some v => simp [hcat, hb]
    · simp [hcat]

/-- The ways in which an assignment is supplied with a value: no edge brings one, one edge brings
that of a variable, or it cannot be told what it is. -/
theorem supply_cases (p : Palette) (n : Node) :
    (d.valueFeeds n = [] ∧ (of d).supply p n = .own n.override?) ∨
    (∃ e w, d.valueFeeds n = [e] ∧ d.Carries p e w ∧ (of d).supply p n = .copied w) ∨
    ((d.valueFeeds n ≠ [] ∧ ¬ ∃ e w, d.valueFeeds n = [e] ∧ d.Carries p e w) ∧
      ((of d).supply p n = .computed ∨ (of d).supply p n = .several)) := by
  unfold supply
  rw [feeds_of]
  match d.valueFeeds n with
  | [] => exact Or.inl ⟨rfl, rfl⟩
  | [e] =>
    rcases origin_cases p e with ⟨w, hw, ho⟩ | ⟨hnone, ho⟩
    · exact Or.inr (Or.inl ⟨e, w, rfl, hw, ho⟩)
    · refine Or.inr (Or.inr ⟨⟨by simp, ?_⟩, Or.inl ho⟩)
      rintro ⟨e', w, he, hw⟩
      cases he
      exact hnone ⟨w, hw⟩
  | _ :: _ :: _ => exact Or.inr (Or.inr ⟨⟨by simp, by simp⟩, Or.inr rfl⟩)

theorem supply_eq_own {n : Node} (h : d.valueFeeds n = []) :
    (of d).supply p n = .own n.override? := by
  unfold supply
  rw [feeds_of, h]

theorem supply_eq_several {n : Node} (h : 1 < (d.valueFeeds n).length) :
    (of d).supply p n = .several := by
  obtain ⟨e, e', rest, hf⟩ : ∃ e e' rest, d.valueFeeds n = e :: e' :: rest := by
    rcases hf : d.valueFeeds n with _ | ⟨e, _ | ⟨e', rest⟩⟩
    · simp [hf] at h
    · simp [hf] at h
    · exact ⟨e, e', rest, rfl⟩
  unfold supply
  rw [feeds_of, hf]

theorem supply_eq_computed {n : Node} {e : Edge} (hf : d.valueFeeds n = [e])
    (hno : ∀ w, ¬ d.Carries p e w) : (of d).supply p n = .computed := by
  unfold supply
  rw [feeds_of, hf]
  rcases origin_cases p e with ⟨w, hw, -⟩ | ⟨-, ho⟩
  · exact absurd hw (hno w)
  · exact ho

theorem supply_eq_copied {n : Node} {w : String} :
    (of d).supply p n = .copied w ↔ ∃ e, d.valueFeeds n = [e] ∧ d.Carries p e w := by
  rcases supply_cases (d := d) p n with ⟨hf, hs⟩ | ⟨e, v, hf, hc, hs⟩ | ⟨⟨-, hno⟩, hs⟩
  · simp [hf, hs]
  · rw [hs, Supply.copied.injEq]
    constructor
    · rintro rfl
      exact ⟨e, hf, hc⟩
    · rintro ⟨e', hf', hc'⟩
      rw [hf] at hf'
      cases hf'
      exact hc.unique hc'
  · constructor
    · intro h
      rcases hs with hs | hs <;> rw [hs] at h <;> cases h
    · rintro ⟨e, hf, hc⟩
      exact absurd ⟨e, w, hf, hc⟩ hno

theorem mem_copies {v w : String} : w ∈ (of d).copies p v ↔ d.Reads p v w := by
  have hcopied : w ∈ (of d).copies p v ↔
      ∃ n ∈ (of d).assignments v, (of d).supply p n = .copied w := by
    rw [copies_eq, List.mem_filterMap]
    refine exists_congr fun n => and_congr_right fun _ => ?_
    cases (of d).supply p n <;> simp [Supply.source?]
  rw [hcopied]
  unfold Diagram.Reads
  refine exists_congr fun n => ?_
  rw [mem_assignments, supply_eq_copied, exists_and_left]

end Execution

end Blueprint
