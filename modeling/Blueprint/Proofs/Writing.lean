import Blueprint.Proofs.Reading

/-!
# Proofs: writing documents

`Diagram.write` writes a diagram in the newer layout: node records with their type, label, ports and
settings, edge records with the nodes and ports that they join, and a snapshot as a record nested in
that of its edge. What is absent from an edge or a port is left out, but both lists of ports are
always written, since a record without any is read with the ports of its type.

Reading gives back the diagram that was written (`readDiagram_write`), if no name that the reader
requires is empty and if the diagram holds nothing that is not written: the role of a node has to be
the one its type stands for, and the side of a port the one that it is listed on.
-/

namespace Blueprint

/-! ## Records -/

namespace Port

def fields (q : Port) : List (String × Option Value) :=
  [("id", some (.str q.id)),
   ("dataType", some (.str q.dataType.text)),
   ("variableId", q.variableId.map .str)]

def write (q : Port) : Value := .map (Fields.ofNamed q.fields)

end Port

def Settings.write (s : Settings) : Value :=
  .map (s.entries.map fun entry => (.str entry.1, entry.2))

namespace Node

def fields (n : Node) : List (String × Option Value) :=
  [("id", some (.str n.id)),
   ("type", some (.str n.typeName)),
   ("label", some (.str n.label)),
   ("inputs", some (.list (n.inputs.map Port.write))),
   ("outputs", some (.list (n.outputs.map Port.write))),
   ("properties", some n.settings.write)]

def write (n : Node) : Value := .map (Fields.ofNamed n.fields)

end Node

/-- The fields of an edge record; `nested` is the record that it nests, if any. -/
def Link.fields (l : Link) (nested : Option Value) : List (String × Option Value) :=
  [("id", some (.str l.id)),
   ("sourceNode", some (.str l.source)),
   ("targetNode", some (.str l.target)),
   ("sourcePort", l.sourcePort.map .str),
   ("targetPort", l.targetPort.map .str),
   ("kind", l.statedFlow.map fun flow => .str flow.text),
   ("blueprintEdge", nested)]

def Link.write (l : Link) (nested : Option Value) : Value := .map (Fields.ofNamed (l.fields nested))

def Edge.write (e : Edge) : Value := e.toLink.write (e.snapshot.map fun l => l.write none)

/-- Writes a diagram as a document. -/
def Diagram.write (d : Diagram) : Value :=
  .map (Fields.ofNamed
    [("nodes", some (.list (d.nodes.map Node.write))),
     ("edges", some (.list (d.edges.map Edge.write)))])

/-! ## What a document can say -/

/-- The ports of one side have names and are on that side. -/
abbrev Port.Listed (side : Side) (ports : List Port) : Prop :=
  ∀ q ∈ ports, q.id ≠ "" ∧ q.side = side

/-- All of a node is in its record. -/
structure Node.Writable (p : Palette) (n : Node) : Prop where
  id : n.id ≠ ""
  typeName : n.typeName ≠ ""
  /-- The role is the one that the palette has for the type, or else older documents have. -/
  role : (p.find? n.typeName).elim (Role.ofCoarseType? n.typeName) (some ·.role) = some n.role
  inputs : Port.Listed .input n.inputs
  outputs : Port.Listed .output n.outputs
  settings : ∀ entry ∈ n.settings.entries, Text.snakeCase entry.1 = entry.1

instance (p : Palette) (n : Node) : Decidable (n.Writable p) :=
  decidable_of_iff
    (n.id ≠ "" ∧ n.typeName ≠ "" ∧
      (p.find? n.typeName).elim (Role.ofCoarseType? n.typeName) (some ·.role) = some n.role ∧
      Port.Listed .input n.inputs ∧ Port.Listed .output n.outputs ∧
      ∀ entry ∈ n.settings.entries, Text.snakeCase entry.1 = entry.1)
    ⟨fun ⟨hid, htype, hrole, hin, hout, hset⟩ => ⟨hid, htype, hrole, hin, hout, hset⟩,
      fun h => ⟨h.id, h.typeName, h.role, h.inputs, h.outputs, h.settings⟩⟩

/-- All of a diagram is in the document that it is written as. -/
structure Diagram.Writable (p : Palette) (d : Diagram) : Prop where
  nodes : ∀ n ∈ d.nodes, n.Writable p
  edges : ∀ e ∈ d.edges, e.id ≠ ""

instance (p : Palette) (d : Diagram) : Decidable (d.Writable p) :=
  decidable_of_iff ((∀ n ∈ d.nodes, n.Writable p) ∧ ∀ e ∈ d.edges, e.id ≠ "")
    ⟨fun ⟨hnodes, hedges⟩ => ⟨hnodes, hedges⟩, fun h => ⟨h.nodes, h.edges⟩⟩

/-! ## Texts -/

theorem DataType.read_text (t : DataType) : DataType.read (.str t.text) = t := by
  cases t <;> rfl

theorem Flow.ofText?_text (flow : Flow) : Flow.ofText? flow.text = some flow := by
  cases flow <;> rfl

/-! ## Settings -/

namespace Settings

theorem putEntry_of_notMem {name : String} {value : Value} {entries : List (String × Value)}
    (h : name ∉ entries.map (·.1)) : putEntry name value entries = entries ++ [(name, value)] := by
  induction entries with
  | nil => rfl
  | cons entry entries ih =>
    rw [List.map_cons, List.mem_cons, not_or] at h
    obtain ⟨hne, hrest⟩ := h
    rw [putEntry, if_neg (Ne.symm hne), ih hrest, List.cons_append]

theorem ext {s s' : Settings} (h : s.entries = s'.entries) : s = s' := by
  cases s
  cases s'
  simpa using h

/-- Names that are all new are set one behind the other. -/
theorem foldl_put {s : Settings} {entries : List (String × Value)}
    (h : ((s.entries ++ entries).map (·.1)).Nodup) :
    (entries.foldl (fun s entry => s.put entry.1 entry.2) s).entries = s.entries ++ entries := by
  induction entries generalizing s with
  | nil => exact (List.append_nil _).symm
  | cons entry entries ih =>
    have hnew : entry.1 ∉ s.entries.map (·.1) := by
      rw [List.map_append, List.map_cons, List.nodup_append] at h
      exact fun hmem => h.2.2 _ hmem _ (List.mem_cons_self ..) rfl
    have hput : (s.put entry.1 entry.2).entries = s.entries ++ [entry] := putEntry_of_notMem hnew
    rw [List.foldl_cons, ih, hput, List.append_assoc, List.singleton_append]
    rwa [hput, List.append_assoc, List.singleton_append]

theorem ofList_entries (s : Settings) : ofList s.entries = s := by
  refine ext ?_
  unfold ofList
  rw [foldl_put (by simpa [empty] using s.nodup)]
  rfl

end Settings

namespace Document

theorem settingsOfFields_write {s : Settings}
    (h : ∀ entry ∈ s.entries, Text.snakeCase entry.1 = entry.1) :
    settingsOfFields (s.entries.map fun entry => (.str entry.1, entry.2)) = s := by
  have hkeys : (s.entries.map fun entry => (Scalar.str entry.1, entry.2)).map
      (fun entry => (Text.snakeCase entry.1.plain, entry.2)) = s.entries := by
    rw [List.map_map]
    refine (List.map_congr_left fun entry hentry => ?_).trans (List.map_id _)
    show (Text.snakeCase entry.1, entry.2) = entry
    rw [h entry hentry]
  rw [settingsOfFields, hkeys, Settings.ofList_entries]

/-! ## Nodes -/

theorem get?_portFields (q : Port) (name : String) :
    (Fields.ofNamed q.fields).get? name = (q.fields.lookup name).join :=
  Fields.get?_ofNamed (by simp [Port.fields]) name

theorem get?_writtenNode (n : Node) (name : String) :
    (Fields.ofNamed n.fields).get? name = (n.fields.lookup name).join :=
  Fields.get?_ofNamed (by simp [Node.fields]) name

/-- A field that was left out if absent is read as what it was. -/
theorem spelled_of_get?_map {record : Fields} {name : String} {o : Option String}
    (h : record.get? name = o.map .str) (hsnake : record.get? (Text.snakeCase name) = none) :
    record.spelled [name] = (o.map Value.str).getD .null := by
  rw [Fields.spelled_cons, h, hsnake, Fields.spelled_nil]
  rfl

theorem readPort_write {node : String} {side : Side} {q : Port} (hid : q.id ≠ "")
    (hside : q.side = side) (k : Nat) : readPort node side k q.write = .ok q := by
  have hdataType : (Fields.ofNamed q.fields).spelled ["dataType", "dataKind"] =
      .str q.dataType.text :=
    Fields.spelled_of_get? (get?_portFields q "dataType") _
  have hvariable : (Fields.ofNamed q.fields).spelled ["variableId"] =
      (q.variableId.map Value.str).getD .null :=
    spelled_of_get?_map (get?_portFields q "variableId") (get?_portFields q "variable_id")
  refine readPort_eq_ok.mpr ⟨?_, optionalText_eq_ok.mpr hvariable, ?_, hside.symm⟩
  · rw [hdataType, DataType.read_text]
  · exact requireId_eq_ok.mpr ⟨Fields.get_of_get? (get?_portFields q "id"), hid⟩

theorem readPorts_write {node : String} {side : Side} {ports : List Port}
    (h : Port.Listed side ports) : readPorts node side (.list (ports.map Port.write)) = .ok ports :=
  readEach_map_eq_pure (fun q hq k => readPort_write (h q hq).1 (h q hq).2 k) 0

theorem knownRole?_of_writable {p : Palette} {n : Node} (h : n.Writable p) :
    knownRole? p n.typeName = some n.role := by
  unfold knownRole?
  rw [← h.role]
  cases p.find? n.typeName with
  | some t => rfl
  | none => rfl

theorem readNode_write {p : Palette} {n : Node} (h : n.Writable p) (k : Nat) :
    readNode p k n.write = ⟨[], .ok n⟩ := by
  have hget := get?_writtenNode n
  have htype : (Fields.ofNamed n.fields).get "type" = .str n.typeName :=
    Fields.get_of_get? (hget "type")
  have hlabel : (Fields.ofNamed n.fields).get "label" = .str n.label :=
    Fields.get_of_get? (hget "label")
  have hinputs : (Fields.ofNamed n.fields).get "inputs" = .list (n.inputs.map Port.write) :=
    Fields.get_of_get? (hget "inputs")
  have houtputs : (Fields.ofNamed n.fields).get "outputs" = .list (n.outputs.map Port.write) :=
    Fields.get_of_get? (hget "outputs")
  refine readNode_eq_ok.mpr ⟨?_, .ofNamed n.fields, n.typeName, ?_, ?_, ?_, ?_, ?_, ?_⟩
  · exact requireId_eq_ok.mpr ⟨Fields.get_of_get? (hget "id"), h.id⟩
  · refine detailOf_eq_ok.mpr (Or.inl ⟨?_, rfl⟩)
    rw [Fields.spelled_cons, hget, hget]
    rfl
  · have hfull : (Value.str n.typeName).isVacant = false := by
      simpa [Value.isVacant] using h.typeName
    unfold statedType
    rw [Fields.spelled_of_snakeCase (by decide), htype]
    simp [Value.orElse, hfull]
  · unfold readType
    rw [knownRole?_of_writable h]
    rfl
  · have hhas : (Fields.ofNamed n.fields).has "inputs" = true := by
      unfold Fields.has
      rw [hget]
      rfl
    unfold portsOf
    rw [hhas, hinputs, houtputs, readPorts_write h.inputs, readPorts_write h.outputs]
    rfl
  · have hproperties : settingsValue (.ofNamed n.fields) (.ofNamed n.fields) = n.settings.write := by
      unfold settingsValue
      rw [Fields.spelled_of_get? (hget "properties")]
      rfl
    refine readSettings_eq_ok.mpr (Or.inr ⟨_, hproperties, ?_⟩)
    exact (settingsOfFields_write h.settings).symm
  · have hcustom : (Fields.ofNamed n.fields).spelled ["customLabel"] = .null := by
      rw [Fields.spelled_cons, hget, hget]
      rfl
    unfold labelOf
    rw [hcustom, hlabel]
    by_cases hempty : n.label = ""
    · simp [Value.orElse, Value.isVacant, Value.plain, hempty]
    · simp [Value.orElse, Value.isVacant, Value.plain, hempty]

/-! ## Edges -/

section Link

variable (l : Link) (nested : Option Value)

theorem get?_linkFields (name : String) :
    (Fields.ofNamed (l.fields nested)).get? name = ((l.fields nested).lookup name).join :=
  Fields.get?_ofNamed (by simp [Link.fields]) name

theorem sourceOf_linkFields : sourceOf (.ofNamed (l.fields nested)) = .str l.source :=
  Fields.spelled_of_get? (get?_linkFields l nested "sourceNode") _

theorem targetOf_linkFields : targetOf (.ofNamed (l.fields nested)) = .str l.target :=
  Fields.spelled_of_get? (get?_linkFields l nested "targetNode") _

/-- Whatever is given for its ends, all else of a link is read as it was written. -/
theorem readLink_linkFields (place : Place) (ends : Fault) :
    readLink place l.id (.str l.source) (.str l.target) ends (.ofNamed (l.fields nested)) =
      .ok l := by
  have hget := get?_linkFields l nested
  refine readLink_eq_ok.mpr ⟨rfl, rfl, ?_, ?_, ?_, rfl⟩
  · exact optionalText_eq_ok.mpr (spelled_of_get?_map (hget "sourcePort") (hget "source_port"))
  · exact optionalText_eq_ok.mpr (spelled_of_get?_map (hget "targetPort") (hget "target_port"))
  · have hkind : (Fields.ofNamed (l.fields nested)).get "kind" =
        (l.statedFlow.map fun flow => Value.str flow.text).getD .null := by
      unfold Fields.get
      rw [hget]
      rfl
    rw [hkind, optionalFlow_eq_ok]
    cases l.statedFlow with
    | none => exact Or.inl ⟨rfl, rfl⟩
    | some flow => exact Or.inr ⟨flow.text, flow, rfl, flow.ofText?_text, rfl⟩

end Link

theorem readEdge_write {e : Edge} (hid : e.id ≠ "") (k : Nat) : readEdge k e.write = .ok e := by
  obtain ⟨l, snapshot⟩ := e
  let nested := snapshot.map fun l => l.write none
  have hget := get?_linkFields l nested
  refine readEdge_eq_ok.mpr ⟨?_, ?_, ?_⟩
  · exact requireId_eq_ok.mpr ⟨Fields.get_of_get? (hget "id"), hid⟩
  · have hnested : (Fields.ofNamed (l.fields nested)).spelled ["blueprintEdge"] =
        nested.getD .null := by
      rw [Fields.spelled_cons, hget, hget]
      rfl
    refine snapshotOf_eq_ok.mpr ?_
    cases snapshot with
    | none => exact Or.inl ⟨hnested, rfl⟩
    | some s =>
      refine Or.inr ⟨.ofNamed (s.fields none), s, hnested, rfl, ?_⟩
      have hname : ((Fields.ofNamed (s.fields none)).get? "id").getD (.str "") = .str s.id := by
        rw [get?_linkFields]
        rfl
      rw [hname, sourceOf_linkFields, targetOf_linkFields]
      exact readLink_linkFields s none (.edge l.id) .nestedEndsMissing
  · have hends : ∀ (id : String) (fallback : Option String),
        endOr (.str id) fallback = .str id := fun _ _ => rfl
    show readLink _ _ (endOr (sourceOf (.ofNamed (l.fields nested))) _)
      (endOr (targetOf (.ofNamed (l.fields nested))) _) _ (.ofNamed (l.fields nested)) = .ok l
    rw [sourceOf_linkFields, targetOf_linkFields, hends, hends]
    exact readLink_linkFields l nested (.edge l.id) .endsMissing

/-! ## Documents -/

/-- **A diagram is read from the document that it is written as.** Nothing of it is lost, and no
warning is raised, under any palette that knows its types as the diagram has them. -/
theorem readDiagram_write (p : Palette) (d : Diagram) (h : d.Writable p) :
    readDiagram p d.write = ⟨[], .ok d⟩ := by
  have hnodes : readEach (readNode p) 0 (d.nodes.map Node.write) = ⟨[], .ok d.nodes⟩ :=
    readEach_map_eq_pure (fun n hn k => readNode_write (h.nodes n hn) k) 0
  have hedges : readEach readEdge 0 (d.edges.map Edge.write) = .ok d.edges :=
    readEach_map_eq_pure (fun e he k => readEdge_write (h.edges e he) k) 0
  exact readDiagram_eq_ok.mpr ⟨_, d.nodes.map Node.write, d.edges.map Edge.write, rfl, rfl, hnodes,
    rfl, hedges⟩

/-- The first node has no ports, though the palette gives some to its type; the second one has a
coarse type that the palette does not know, no label, and a setting that holds a key in camel case.
The snapshot of the edge has empty names in it. -/
theorem readDiagram_write_of_older_edge :
    let start : NodeType :=
      { name := "Begin", role := .entry, category := .flow, outputs := [.execOut] }
    let p : Palette := ⟨[start], [], by simp⟩
    let settings : Settings :=
      ⟨[("input_value", .map [(.str "inputValue", .null)]), ("note", .str "")], by simp⟩
    let port : Port := { id := "in", dataType := .control, variableId := some "" }
    let first : Node := { id := "s", role := .entry, label := "Begin here", typeName := "Begin" }
    let second : Node :=
      { id := "x", role := .storage, typeName := "Variable", inputs := [port],
        outputs := [{ id := "out", dataType := .object, side := .output }], settings }
    let snapshot : Link :=
      { id := "", source := "", target := "y", sourcePort := some "", statedFlow := some .data }
    let edge : Edge :=
      { id := "1", source := "s", target := "z", targetPort := some "in", snapshot := some snapshot }
    let d : Diagram := { nodes := [first, second], edges := [edge] }
    d.Writable p ∧ readDiagram p d.write = ⟨[], .ok d⟩ := by
  intro start p settings port first second snapshot edge d
  have hd : d.Writable p := by decide
  exact ⟨hd, readDiagram_write p d hd⟩

end Document

end Blueprint
