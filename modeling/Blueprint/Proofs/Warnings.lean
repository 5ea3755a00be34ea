import Blueprint.Proofs.Extension

/-!
# Proofs: warnings about unknown types

A node record may ask for a type that neither the palette nor older documents know. It is then read
as a custom node, with a warning. The warning is raised in the middle of the record: after its name,
its description and its type, but before its ports and settings. So there is one about a record that
is refused for its ports, but none about a record that is refused for its name, and none about any
record after one that is refused. Edges are read last and raise no warnings.
-/

namespace Blueprint.Document

/-! ## Lists with one member for each marked position -/

/-- The list has one member for each position that is marked, in the order of the positions. -/
def OnePerPosition {γ : Type} (marks : Nat → γ → Prop) (cs : List γ) : Prop :=
  ∃ positions : List Nat, positions.Pairwise (· < ·) ∧ (∀ i, i ∈ positions ↔ ∃ c, marks i c) ∧
    List.Forall₂ marks positions cs

namespace OnePerPosition

variable {γ : Type} {marks marks' : Nat → γ → Prop} {first cs : List γ}

theorem nil (h : ∀ i c, ¬ marks i c) : OnePerPosition marks [] := by
  refine ⟨[], .nil, fun i => iff_of_false List.not_mem_nil ?_, .nil⟩
  rintro ⟨c, hc⟩
  exact h i c hc

/-- A first position comes before the others, marked or not. -/
theorem cons (hfirst : first = [] ∧ (∀ c, ¬ marks' 0 c) ∨ ∃ c, first = [c] ∧ marks' 0 c)
    (hrest : ∀ i c, marks' (i + 1) c ↔ marks i c) (h : OnePerPosition marks cs) :
    OnePerPosition marks' (first ++ cs) := by
  obtain ⟨positions, hlt, hmem, hcs⟩ := h
  have hlt' : (positions.map (· + 1)).Pairwise (· < ·) :=
    List.pairwise_map.mpr (hlt.imp fun hij => Nat.succ_lt_succ hij)
  have hmem' : ∀ i, i + 1 ∈ positions.map (· + 1) ↔ ∃ c, marks' (i + 1) c := by
    intro i
    simp only [hrest, ← hmem, List.mem_map, Nat.add_right_cancel_iff, exists_eq_right]
  have hcs' : List.Forall₂ marks' (positions.map (· + 1)) cs :=
    List.forall₂_map_left_iff.mpr (hcs.imp fun i c => (hrest i c).mpr)
  rcases hfirst with ⟨rfl, hnone⟩ | ⟨c, rfl, hc⟩
  · refine ⟨positions.map (· + 1), hlt', fun i => ?_, hcs'⟩
    cases i with
    | zero => exact iff_of_false (by simp) fun ⟨c, hc⟩ => hnone c hc
    | succ i => exact hmem' i
  · have hlt₀ : (0 :: positions.map (· + 1)).Pairwise (· < ·) :=
      List.pairwise_cons.mpr ⟨by simp, hlt'⟩
    refine ⟨0 :: positions.map (· + 1), hlt₀, fun i => ?_, .cons hc hcs'⟩
    cases i with
    | zero => exact iff_of_true (List.mem_cons_self ..) ⟨c, hc⟩
    | succ i =>
      rw [← hmem' i, List.mem_cons]
      exact or_iff_right (Nat.succ_ne_zero i)

end OnePerPosition

/-! ## Steps and lists -/

section Lists

variable {α β : Type} {read : Nat → α → Load β} {about : α → Warning → Prop} {k : Nat}

namespace Load

variable {x : Load α} {f : α → Load β}

theorem warnings_bind_of_ok {a : α} (h : x.result = .ok a) :
    (x >>= f).warnings = x.warnings ++ (f a).warnings := by
  rw [eq_ok_of_result h]
  rfl

theorem warnings_bind_of_error {e : Malformed} (h : x.result = .error e) :
    (x >>= f).warnings = x.warnings := by
  obtain ⟨ws, r⟩ := x
  obtain rfl : r = .error e := h
  rfl

/-- Steps without warnings add nothing to those raised before. -/
theorem warnings_bind_of_quiet (h : ∀ a, (f a).warnings = []) :
    (x >>= f).warnings = x.warnings := by
  cases hx : x.result with
  | error e => exact warnings_bind_of_error hx
  | ok a => rw [warnings_bind_of_ok hx, h, List.append_nil]

theorem warnings_lift_bind_of_quiet {y : Except Malformed α} (h : ∀ a, (f a).warnings = []) :
    ((liftM y : Load α) >>= f).warnings = [] :=
  warnings_bind_of_quiet h

theorem mem_warnings_lift_bind {y : Except Malformed α} {w : Warning} :
    w ∈ ((liftM y : Load α) >>= f).warnings ↔ ∃ a, y = .ok a ∧ w ∈ (f a).warnings := by
  cases y with
  | error e => simp [lift_error_bind]
  | ok a => simp [lift_ok_bind]

end Load

/-- The member at a position is read as `b`. The first member is the `k`-th to be read. -/
def ReadsAt (read : Nat → α → Load β) (k : Nat) (xs : List α) (i : Nat) (b : β) : Prop :=
  ∃ a, xs[i]? = some a ∧ (read (i + k) a).result = .ok b

/-- All members before a position are read, and there is something to warn about at the position. -/
structure WarnsAt (read : Nat → α → Load β) (about : α → Warning → Prop) (k : Nat) (xs : List α)
    (i : Nat) (w : Warning) : Prop where
  before : ∀ j < i, ∃ b, ReadsAt read k xs j b
  here : ∃ a, xs[i]? = some a ∧ about a w

theorem readsAt_succ {a : α} {xs : List α} {i : Nat} {b : β} :
    ReadsAt read k (a :: xs) (i + 1) b ↔ ReadsAt read (k + 1) xs i b := by
  unfold ReadsAt
  rw [List.getElem?_cons_succ, Nat.succ_add_eq_add_succ]

theorem warnsAt_zero {a : α} {xs : List α} {w : Warning} :
    WarnsAt read about k (a :: xs) 0 w ↔ about a w := by
  constructor
  · rintro ⟨-, _, ha, hw⟩
    obtain rfl := Option.some.inj ha
    exact hw
  · intro hw
    exact ⟨fun j hj => absurd hj (Nat.not_lt_zero j), a, rfl, hw⟩

theorem warnsAt_succ {a : α} {xs : List α} {i : Nat} {w : Warning} :
    WarnsAt read about k (a :: xs) (i + 1) w ↔
      (∃ b, (read k a).result = .ok b) ∧ WarnsAt read about (k + 1) xs i w := by
  constructor
  · rintro ⟨hbefore, hhere⟩
    obtain ⟨b, _, ha, hb⟩ := hbefore 0 (Nat.succ_pos i)
    obtain rfl := Option.some.inj ha
    rw [Nat.zero_add] at hb
    refine ⟨⟨b, hb⟩, fun j hj => ?_, hhere⟩
    obtain ⟨b, hb⟩ := hbefore (j + 1) (Nat.succ_lt_succ hj)
    exact ⟨b, readsAt_succ.mp hb⟩
  · rintro ⟨⟨b, hb⟩, hbefore, hhere⟩
    refine ⟨fun j hj => ?_, hhere⟩
    cases j with
    | zero => exact ⟨b, a, rfl, by rwa [Nat.zero_add]⟩
    | succ j =>
      obtain ⟨b, hb⟩ := hbefore j (Nat.lt_of_succ_lt_succ hj)
      exact ⟨b, readsAt_succ.mpr hb⟩

/-- If each member raises one warning or none, a list raises one for each member to warn about, up
to the first member that is refused. -/
theorem onePerPosition_readEach
    (h : ∀ k a, (read k a).warnings = [] ∧ (∀ w, ¬ about a w) ∨
      ∃ w, (read k a).warnings = [w] ∧ about a w) (k : Nat) (xs : List α) :
    OnePerPosition (WarnsAt read about k xs) (readEach read k xs).warnings := by
  induction xs generalizing k with
  | nil =>
    refine .nil ?_
    rintro i w ⟨-, a, ha, -⟩
    simp at ha
  | cons a xs ih =>
    have hfirst : (read k a).warnings = [] ∧ (∀ w, ¬ WarnsAt read about k (a :: xs) 0 w) ∨
        ∃ w, (read k a).warnings = [w] ∧ WarnsAt read about k (a :: xs) 0 w := by
      simp only [warnsAt_zero]
      exact h k a
    rw [readEach]
    cases hread : (read k a).result with
    | ok b =>
      rw [Load.warnings_bind_of_ok hread, Load.warnings_bind_of_quiet fun _ => rfl]
      refine .cons hfirst (fun i w => ?_) (ih (k + 1))
      rw [warnsAt_succ, hread]
      exact and_iff_right ⟨b, rfl⟩
    | error e =>
      -- nothing behind the refused member is marked
      have hnone : OnePerPosition (fun _ (_ : Warning) => False) [] := .nil fun _ _ => id
      rw [Load.warnings_bind_of_error hread, ← List.append_nil (read k a).warnings]
      refine .cons hfirst (fun i w => ?_) hnone
      rw [warnsAt_succ, hread]
      simp

/-- A list that is read has the members that its members are read as, at their positions. -/
theorem getElem?_readEach {k : Nat} {xs : List α} {bs : List β}
    (h : (readEach read k xs).result = .ok bs) (i : Nat) (b : β) :
    bs[i]? = some b ↔ ReadsAt read k xs i b := by
  induction xs generalizing k bs i with
  | nil =>
    obtain rfl : [] = bs := Except.ok.inj h
    simp [ReadsAt]
  | cons a xs ih =>
    rw [readEach, Load.result_bind] at h
    obtain ⟨b', hb', h⟩ := bind_eq_ok.mp h
    rw [Load.result_bind] at h
    obtain ⟨rest, hrest, h⟩ := bind_eq_ok.mp h
    obtain rfl : b' :: rest = bs := Except.ok.inj h
    cases i with
    | zero => simp [ReadsAt, hb']
    | succ i => rw [readsAt_succ, List.getElem?_cons_succ, ih hrest]

end Lists

/-! ## Nodes -/

variable {p : Palette} {k : Nat} {item v : Value} {w : Warning} {n : Node}

/-- A node record, as far as it is looked at before a warning: it has the name and asks for the type
that the warning gives, and the type is unknown. -/
structure AsksForUnknown (p : Palette) (item : Value) (w : Warning) : Prop where
  record : ∃ node : Fields, item = .map node ∧ node.get "id" = .str w.node ∧ w.node ≠ "" ∧
    AsksFor node w.typeName
  unregistered : p.find? w.typeName = none
  notCoarse : Role.ofCoarseType? w.typeName = none

theorem knownRole?_eq_none {typeName : String} :
    knownRole? p typeName = none ↔
      p.find? typeName = none ∧ Role.ofCoarseType? typeName = none := by
  unfold knownRole?
  rw [Option.or_eq_none_iff, Option.map_eq_none_iff]

theorem readType_of_unknown {node stated : String} (h : knownRole? p stated = none) :
    readType p node stated = ⟨[⟨stated, node⟩], .ok ("Custom", .custom)⟩ := by
  unfold readType
  rw [h]
  rfl

theorem unknown_of_mem_warnings_readType {node stated : String}
    (h : w ∈ (readType p node stated).warnings) :
    knownRole? p stated = none ∧ w = ⟨stated, node⟩ := by
  cases hrole : knownRole? p stated with
  | some role =>
    unfold readType at h
    rw [hrole] at h
    cases h
  | none =>
    rw [readType_of_unknown hrole] at h
    exact ⟨rfl, List.mem_singleton.mp h⟩

/-- After the type, nothing in a record raises warnings. -/
theorem warnings_readNode_of_steps {id stated : String} {record detail : Fields}
    (hid : requireId (.nodeAt k) record = .ok id) (hdetail : detailOf id record = .ok detail)
    (hstated : statedType id record detail = .ok stated) :
    (readNode p k (.map record)).warnings = (readType p id stated).warnings := by
  unfold readNode
  rw [asMap, Load.lift_ok_bind, hid, Load.lift_ok_bind, hdetail, Load.lift_ok_bind, hstated,
    Load.lift_ok_bind]
  refine Load.warnings_bind_of_quiet fun _ => Load.warnings_lift_bind_of_quiet fun _ => ?_
  exact Load.warnings_lift_bind_of_quiet fun _ => rfl

theorem warnings_readNode_of_asksForUnknown (h : AsksForUnknown p item w) (k : Nat) :
    (readNode p k item).warnings = [w] := by
  obtain ⟨⟨record, rfl, hid, hne, detail, hdescribes, htype⟩, hunregistered, hcoarse⟩ := h
  have hname : requireId (.nodeAt k) record = .ok w.node := requireId_eq_ok.mpr ⟨hid, hne⟩
  have hdetail : detailOf w.node record = .ok detail := detailOf_eq_ok.mpr hdescribes.symm
  have hstated : statedType w.node record detail = .ok w.typeName := by
    rw [statedType_eq_ok, orElse_eq_find?]
    exact htype
  rw [warnings_readNode_of_steps hname hdetail hstated,
    readType_of_unknown (knownRole?_eq_none.mpr ⟨hunregistered, hcoarse⟩)]

theorem asksForUnknown_of_mem_warnings (h : w ∈ (readNode p k item).warnings) :
    AsksForUnknown p item w := by
  have hsteps := h
  unfold readNode at hsteps
  obtain ⟨record, hmap, hsteps⟩ := Load.mem_warnings_lift_bind.mp hsteps
  obtain ⟨id, hid, hsteps⟩ := Load.mem_warnings_lift_bind.mp hsteps
  obtain ⟨detail, hdetail, hsteps⟩ := Load.mem_warnings_lift_bind.mp hsteps
  obtain ⟨stated, hstated, -⟩ := Load.mem_warnings_lift_bind.mp hsteps
  obtain rfl := asMap_eq_ok.mp hmap
  rw [warnings_readNode_of_steps hid hdetail hstated] at h
  obtain ⟨hrole, rfl⟩ := unknown_of_mem_warnings_readType h
  obtain ⟨hid, hne⟩ := requireId_eq_ok.mp hid
  obtain ⟨hunregistered, hcoarse⟩ := knownRole?_eq_none.mp hrole
  rw [statedType_eq_ok, orElse_eq_find?] at hstated
  exact ⟨⟨record, rfl, hid, hne, detail, (detailOf_eq_ok.mp hdetail).symm, hstated⟩,
    hunregistered, hcoarse⟩

theorem warnings_readNode_cases (p : Palette) (k : Nat) (item : Value) :
    (readNode p k item).warnings = [] ∧ (∀ w, ¬ AsksForUnknown p item w) ∨
      ∃ w, (readNode p k item).warnings = [w] ∧ AsksForUnknown p item w := by
  by_cases h : ∃ w, AsksForUnknown p item w
  · obtain ⟨w, hw⟩ := h
    exact Or.inr ⟨w, warnings_readNode_of_asksForUnknown hw k, hw⟩
  · have hnone := not_exists.mp h
    refine Or.inl ⟨List.eq_nil_iff_forall_not_mem.mpr fun w hw => ?_, hnone⟩
    exact hnone w (asksForUnknown_of_mem_warnings hw)

/-- Ports that are not given are those of the type, if the palette has it. -/
theorem portsOf_of_absent {node typeName : String} {detail : Fields}
    (hinputs : detail.has "inputs" = false) (houtputs : detail.has "outputs" = false) :
    portsOf p node typeName detail = .ok (((p.find? typeName).map (·.inputs)).getD [],
      ((p.find? typeName).map (·.outputs)).getD []) := by
  unfold portsOf
  rw [hinputs, houtputs]
  cases p.find? typeName with
  | some t => rfl
  | none => rfl

/-- How a node of an unknown type is read. -/
structure ReadAsCustom (p : Palette) (item : Value) (n : Node) : Prop where
  typeName : n.typeName = "Custom"
  role : n.role = .custom
  /-- Ports that the record does not give are those of the type for custom nodes, if the palette has
  it. -/
  ports : ∀ node detail, item = .map node → Describes detail node →
    detail.has "inputs" = false → detail.has "outputs" = false →
    n.inputs = ((p.find? "Custom").map (·.inputs)).getD [] ∧
      n.outputs = ((p.find? "Custom").map (·.outputs)).getD []

theorem readAsCustom_of_asksForUnknown (h : AsksForUnknown p item w)
    (hread : (readNode p k item).result = .ok n) : ReadAsCustom p item n ∧ n.id = w.node := by
  have hnode := Load.eq_ok_of_result hread
  rw [warnings_readNode_of_asksForUnknown h] at hnode
  obtain ⟨⟨record, rfl, -⟩, -⟩ := h
  obtain ⟨-, detail, stated, hdetail, -, htype, hports, -⟩ := readNode_eq_ok.mp hnode
  obtain ⟨hrole, rfl⟩ : knownRole? p stated = none ∧ w = ⟨stated, n.id⟩ := by
    apply unknown_of_mem_warnings_readType
    rw [htype]
    exact List.mem_singleton_self w
  rw [readType_of_unknown hrole] at htype
  obtain ⟨htypeName, hcustom⟩ : "Custom" = n.typeName ∧ Role.custom = n.role := by
    simpa using (Load.ext_iff.mp htype).2
  refine ⟨⟨htypeName.symm, hcustom.symm, ?_⟩, rfl⟩
  intro node detail' hmap hdescribes hinputs houtputs
  obtain rfl := Value.map.inj hmap
  have hdetail' : detailOf n.id record = .ok detail' := detailOf_eq_ok.mpr hdescribes.symm
  obtain rfl : detail' = detail := Except.ok.inj (hdetail'.symm.trans hdetail)
  rw [portsOf_of_absent hinputs houtputs, ← htypeName] at hports
  obtain ⟨hin, hout⟩ := Prod.mk.inj (Except.ok.inj hports)
  exact ⟨hin.symm, hout.symm⟩

/-! ## Documents -/

/-- What stands in a list; what is no list has nothing in it. -/
def itemsIn : Value → List Value
  | .list items => items
  | _ => []

/-- The node items of a document. One that is no map, or has no list of nodes, has none. -/
def nodeItems : Value → List Value
  | .map graph => itemsIn (Fields.get graph "nodes")
  | _ => []

theorem itemsIn_of_asList {place : Place} {items : List Value} (h : asList place v = .ok items) :
    itemsIn v = items := by
  rcases asList_eq_ok.mp h with ⟨rfl, rfl⟩ | rfl
  · rfl
  · rfl

theorem itemsIn_of_refused {place : Place} {e : Malformed} (h : asList place v = .error e) :
    itemsIn v = [] := by
  unfold itemsIn
  split
  · cases h
  · rfl

theorem nodeItems_of_refused {place : Place} {e : Malformed} (h : asMap place v = .error e) :
    nodeItems v = [] := by
  unfold nodeItems
  split
  · cases h
  · rfl

theorem warnings_readDiagram (p : Palette) (v : Value) :
    (readDiagram p v).warnings = (readEach (readNode p) 0 (nodeItems v)).warnings := by
  unfold readDiagram
  cases hmap : asMap .graph v with
  | error e =>
    rw [nodeItems_of_refused hmap]
    rfl
  | ok graph =>
    obtain rfl := asMap_eq_ok.mp hmap
    rw [Load.lift_ok_bind, nodeItems]
    cases hlist : asList .graphNodes (graph.get "nodes") with
    | error e =>
      rw [itemsIn_of_refused hlist]
      rfl
    | ok items =>
      rw [itemsIn_of_asList hlist, Load.lift_ok_bind]
      -- edges raise no warnings
      refine Load.warnings_bind_of_quiet fun _ => Load.warnings_lift_bind_of_quiet fun _ => ?_
      exact Load.warnings_lift_bind_of_quiet fun _ => rfl

theorem result_readEach_nodeItems {d : Diagram} (h : (readDiagram p v).result = .ok d) :
    (readEach (readNode p) 0 (nodeItems v)).result = .ok d.nodes := by
  obtain ⟨graph, items, -, rfl, hitems, hread, -⟩ :=
    readDiagram_eq_ok.mp (Load.eq_ok_of_result h)
  rw [nodeItems, itemsIn_of_asList hitems, hread]

/-- The node item at a position is read as a node. -/
def NodeReadAt (p : Palette) (v : Value) : Nat → Node → Prop :=
  ReadsAt (readNode p) 0 (nodeItems v)

/-- All node items before a position are read, and the one there asks for an unknown type. -/
def WarnedAt (p : Palette) (v : Value) : Nat → Warning → Prop :=
  WarnsAt (readNode p) (AsksForUnknown p) 0 (nodeItems v)

/-- **Warnings about unknown types are exact.** Whether a document is read or refused, there is one
warning for each node item that asks for an unknown type while all items before it are read, in the
order of the items; it gives the names of the node and of the type. If such an item is itself read,
it is read as a custom node. The nodes of a document that is read are those its items are read
as. -/
theorem unknown_types_warned_exactly (p : Palette) (v : Value) :
    OnePerPosition (WarnedAt p v) (readDiagram p v).warnings ∧
    (∀ i item w n, WarnedAt p v i w → (nodeItems v)[i]? = some item →
      (readNode p i item).result = .ok n → ReadAsCustom p item n ∧ n.id = w.node) ∧
    ∀ d, (readDiagram p v).result = .ok d → ∀ i n, d.nodes[i]? = some n ↔ NodeReadAt p v i n := by
  refine ⟨?_, ?_, ?_⟩
  · rw [warnings_readDiagram]
    exact onePerPosition_readEach (warnings_readNode_cases p) 0 (nodeItems v)
  · rintro i item w n ⟨-, _, hitem, hasks⟩ hitem' hread
    obtain rfl := Option.some.inj (hitem.symm.trans hitem')
    exact readAsCustom_of_asksForUnknown hasks hread
  · intro d hd i n
    exact getElem?_readEach (result_readEach_nodeItems hd) i n

/-- The nested type of the second item counts, not its own. The third one is refused for its ports,
but not before its warning, and there is none about the fourth. In `w` the second item comes to be a
node, with the ports of the type for custom nodes but not with the role of that type. -/
theorem unknown_types_warned_up_to_refusal :
    let port : Port := { id := "in", dataType := .any, side := .input }
    let custom : NodeType :=
      { name := "Custom", role := .operation, category := .other, inputs := [port] }
    let p : Palette := ⟨[custom], [], by decide⟩
    let record (id type : String) : Value := .map [(.str "id", .str id), (.str "type", .str type)]
    let nested : Value := .map [(.str "id", .str "b"), (.str "type", .str "Custom"),
      (.str "blueprint_node", .map [(.str "type", .str "Ghost")])]
    let broken : Value := .map [(.str "id", .str "c"), (.str "type", .str "Phantom"),
      (.str "inputs", .int 7)]
    let v : Value := .map [(.str "nodes",
      .list [record "a" "Start", nested, broken, record "d" "Ghost"])]
    let w : Value := .map [(.str "nodes", .list [record "a" "Start", nested])]
    let n : Node := { id := "b", role := .custom, typeName := "Custom", inputs := [port] }
    (readDiagram p v).warnings = [⟨"Ghost", "b"⟩, ⟨"Phantom", "c"⟩] ∧
      OnePerPosition (WarnedAt p v) [⟨"Ghost", "b"⟩, ⟨"Phantom", "c"⟩] ∧
      WarnedAt p v 1 ⟨"Ghost", "b"⟩ ∧ (readNode p 1 nested).result = .ok n ∧
      ReadAsCustom p nested n ∧ (∃ d, (readDiagram p w).result = .ok d ∧ d.nodes[1]? = some n) ∧
      NodeReadAt p w 1 n := by
  intro port custom p record nested broken v w n
  have hwarnings : (readDiagram p v).warnings = [⟨"Ghost", "b"⟩, ⟨"Phantom", "c"⟩] := rfl
  have hread : (readNode p 1 nested).result = .ok n := rfl
  have hwarned : WarnedAt p v 1 ⟨"Ghost", "b"⟩ := by
    refine ⟨fun j hj => ?_, nested, rfl, ⟨_, rfl, rfl, by decide, _, Or.inl rfl, rfl⟩, rfl, rfl⟩
    obtain rfl : j = 0 := Nat.lt_one_iff.mp hj
    exact ⟨_, record "a" "Start", rfl, rfl⟩
  obtain ⟨hexact, hcustom, -⟩ := unknown_types_warned_exactly p v
  obtain ⟨-, -, hnodes⟩ := unknown_types_warned_exactly p w
  rw [hwarnings] at hexact
  refine ⟨hwarnings, hexact, hwarned, hread, (hcustom 1 nested _ n hwarned rfl hread).1,
    ⟨_, rfl, rfl⟩, ?_⟩
  exact (hnodes _ rfl 1 n).mp rfl

end Blueprint.Document
