import Blueprint.Proofs.Reading

/-!
# Proofs: which documents are read

The grammar of documents, written down as it would be for somebody who makes them: which fields a
record has, under which keys they may stand, and what may stand there. A document is read exactly if
it is in the grammar (`readDiagram_accepts_iff`). The grammar knows nothing of palettes, so a palette
decides what a document is read as, but never whether it is read.

Two things are easily overlooked. A key that holds the absent value is there, and hides the spellings
that come after it; and a type that is vacant, of whatever sort, counts as none.
-/

namespace Blueprint

/-! ## Forms of values -/

namespace Value

def IsText (v : Value) : Prop := ∃ s, v = .str s

/-- A text with characters in it. -/
def IsName (v : Value) : Prop := ∃ s, v = .str s ∧ s ≠ ""

/-- A text that stands for a kind of flow. -/
def IsFlow (v : Value) : Prop := v = .str "control" ∨ v = .str "execution" ∨ v = .str "data"

def IsMap (v : Value) : Prop := ∃ fields : Fields, v = .map fields

/-- A map whose entries are of a form. -/
def IsRecord (form : Fields → Prop) (v : Value) : Prop :=
  ∃ fields : Fields, v = .map fields ∧ form fields

/-- A list whose items are of a form. -/
def IsListOf (form : Value → Prop) (v : Value) : Prop :=
  ∃ items, v = .list items ∧ ∀ item ∈ items, form item

/-- Absent, or of a form. What is missing from a record counts as absent. -/
def AbsentOr (form : Value → Prop) (v : Value) : Prop := v = .null ∨ form v

end Value

/-- The value under the first of the keys that is there; the absent value if none is. -/
def Fields.under (fields : Fields) (keys : List String) : Value :=
  (keys.findSome? fields.get?).getD .null

namespace Document

open Value

/-! ## The grammar -/

structure IsPort (port : Fields) : Prop where
  id : (port.get "id").IsName
  variableId : (port.under ["variableId", "variable_id"]).AbsentOr IsText

/-- The part of a node record that describes the node: the nested record, or the record itself. -/
def Describes (detail node : Fields) : Prop :=
  node.under ["blueprintNode", "blueprint_node"] = .map detail ∨
    node.under ["blueprintNode", "blueprint_node"] = .null ∧ detail = node

structure IsDetail (detail node : Fields) : Prop where
  /-- The first of the two types that is not vacant, if there is one, is a text. -/
  type : ∀ v, [detail.get "type", node.get "type"].find? (!·.isVacant) = some v → v.IsText
  inputs : (detail.get "inputs").AbsentOr (IsListOf (IsRecord IsPort))
  outputs : (detail.get "outputs").AbsentOr (IsListOf (IsRecord IsPort))
  properties : (detail.get "properties").IsMap ∨
    detail.get "properties" = .null ∧ (node.get "properties").AbsentOr IsMap

structure IsNode (node : Fields) : Prop where
  id : (node.get "id").IsName
  detail : ∃ detail, Describes detail node ∧ IsDetail detail node

/-- What the record of an edge and the one nested in it have in common. They differ in what may
stand for their ends. -/
structure IsLink (IsEnd : Value → Prop) (link : Fields) : Prop where
  source : IsEnd (link.under ["sourceNode", "source_node", "source"])
  target : IsEnd (link.under ["targetNode", "target_node", "target"])
  sourcePort : (link.under ["sourcePort", "source_port"]).AbsentOr IsText
  targetPort : (link.under ["targetPort", "target_port"]).AbsentOr IsText
  kind : (link.get "kind").AbsentOr IsFlow

structure IsEdge (edge : Fields) : Prop where
  id : (edge.get "id").IsName
  /-- Without a nested record the ends are texts. With one they are texts there, and an end that is
  absent from the edge itself is the one given there. -/
  link : edge.under ["blueprintEdge", "blueprint_edge"] = .null ∧ IsLink IsText edge ∨
    ∃ nested : Fields, edge.under ["blueprintEdge", "blueprint_edge"] = .map nested ∧
      IsLink IsText nested ∧ IsLink (AbsentOr IsText) edge

structure IsGraph (graph : Fields) : Prop where
  nodes : (graph.get "nodes").AbsentOr (IsListOf (IsRecord IsNode))
  edges : (graph.get "edges").AbsentOr (IsListOf (IsRecord IsEdge))

/-- The documents that can be read. -/
def IsDocument (v : Value) : Prop := v.IsRecord IsGraph

/-! ## Steps and lists -/

theorem Load.result_bind {α β : Type} (x : Load α) (f : α → Load β) :
    (x >>= f).result = x.result >>= fun a => (f a).result := by
  obtain ⟨ws, r⟩ := x
  cases r <;> rfl

theorem result_readEach {α β : Type} (read : Nat → α → Load β) (k : Nat) (xs : List α) :
    (readEach read k xs).result = readEach (fun k a => (read k a).result) k xs := by
  induction xs generalizing k with
  | nil => rfl
  | cons a xs ih =>
    rw [readEach, readEach, Load.result_bind]
    congr 1
    funext b
    rw [Load.result_bind, ih]
    rfl

/-- If the position of a member does not matter, a list is read if each of its members is. -/
theorem readEach_accepts {ε α β : Type} {read : Nat → α → Except ε β} {form : α → Prop}
    (h : ∀ k a, (∃ b, read k a = .ok b) ↔ form a) (k : Nat) (xs : List α) :
    (∃ bs, readEach read k xs = .ok bs) ↔ ∀ a ∈ xs, form a := by
  induction xs generalizing k with
  | nil => simp [readEach, pure, Except.pure]
  | cons a xs ih =>
    rw [List.forall_mem_cons, ← h k a, ← ih (k + 1)]
    constructor
    · rintro ⟨_, hread⟩
      obtain ⟨b, hb, hrest⟩ := bind_eq_ok.mp hread
      obtain ⟨bs, hbs, -⟩ := bind_eq_ok.mp hrest
      exact ⟨⟨b, hb⟩, bs, hbs⟩
    · rintro ⟨⟨b, hb⟩, bs, hbs⟩
      exact ⟨b :: bs, bind_eq_ok.mpr ⟨b, hb, bind_eq_ok.mpr ⟨bs, hbs, rfl⟩⟩⟩

theorem readList_accepts {β : Type} {read : Nat → Value → Except Malformed β}
    {form : Value → Prop} (h : ∀ k v, (∃ b, read k v = .ok b) ↔ form v) (place : Place) (v : Value) :
    (∃ items, asList place v = .ok items ∧ ∃ bs, readEach read 0 items = .ok bs) ↔
      v.AbsentOr (IsListOf form) := by
  constructor
  · rintro ⟨items, hitems, hread⟩
    have hforms := (readEach_accepts h 0 items).mp hread
    rcases asList_eq_ok.mp hitems with ⟨hnull, -⟩ | hlist
    · exact Or.inl hnull
    · exact Or.inr ⟨items, hlist, hforms⟩
  · rintro (hnull | ⟨items, hlist, hforms⟩)
    · exact ⟨[], asList_eq_ok.mpr (Or.inl ⟨hnull, rfl⟩), [], rfl⟩
    · exact ⟨items, asList_eq_ok.mpr (Or.inr hlist), (readEach_accepts h 0 items).mpr hforms⟩

/-! ## Fields -/

theorem requireId_accepts {place : Place} {record : Fields} :
    (∃ id, requireId place record = .ok id) ↔ (record.get "id").IsName :=
  exists_congr fun _ => requireId_eq_ok

theorem optionalText_accepts {place : Place} {key : String} {v : Value} :
    (∃ o, optionalText place key v = .ok o) ↔ v.AbsentOr IsText := by
  constructor
  · rintro ⟨o, ho⟩
    cases o with
    | none => exact Or.inl (optionalText_eq_ok.mp ho)
    | some s => exact Or.inr ⟨s, optionalText_eq_ok.mp ho⟩
  · rintro (h | ⟨s, h⟩)
    · exact ⟨none, optionalText_eq_ok.mpr h⟩
    · exact ⟨some s, optionalText_eq_ok.mpr h⟩

theorem Flow.ofText?_isSome {s : String} :
    (∃ flow, Flow.ofText? s = some flow) ↔ s = "control" ∨ s = "execution" ∨ s = "data" := by
  unfold Flow.ofText?
  split
  · next h => simp [h, ← or_assoc]
  · next h =>
    obtain ⟨hcontrol, hexecution⟩ := not_or.mp h
    split
    · next hdata => simp [hdata]
    · next hdata => simp [hcontrol, hexecution, hdata]

theorem optionalFlow_accepts {place : Place} {v : Value} :
    (∃ o, optionalFlow place v = .ok o) ↔ v.AbsentOr IsFlow := by
  constructor
  · rintro ⟨o, ho⟩
    rcases optionalFlow_eq_ok.mp ho with ⟨hnull, -⟩ | ⟨s, flow, rfl, hs, -⟩
    · exact Or.inl hnull
    · have htext := Flow.ofText?_isSome.mp ⟨flow, hs⟩
      exact Or.inr (by simpa [IsFlow] using htext)
  · rintro (hnull | hflow)
    · exact ⟨none, optionalFlow_eq_ok.mpr (Or.inl ⟨hnull, rfl⟩)⟩
    · rcases hflow with h | h | h
      · exact ⟨_, optionalFlow_eq_ok.mpr (Or.inr ⟨_, .control, h, rfl, rfl⟩)⟩
      · exact ⟨_, optionalFlow_eq_ok.mpr (Or.inr ⟨_, .control, h, rfl, rfl⟩)⟩
      · exact ⟨_, optionalFlow_eq_ok.mpr (Or.inr ⟨_, .data, h, rfl, rfl⟩)⟩

/-! ## Nodes -/

theorem readPort_accepts {node : String} {side : Side} (k : Nat) (v : Value) :
    (∃ port, readPort node side k v = .ok port) ↔ v.IsRecord IsPort := by
  constructor
  · rintro ⟨port, hport⟩
    obtain ⟨record, hmap, -⟩ := bind_eq_ok.mp hport
    obtain rfl := asMap_eq_ok.mp hmap
    obtain ⟨-, hvariable, hid, -⟩ := readPort_eq_ok.mp hport
    exact ⟨record, rfl, requireId_accepts.mp ⟨_, hid⟩, optionalText_accepts.mp ⟨_, hvariable⟩⟩
  · rintro ⟨record, rfl, hname, htext⟩
    obtain ⟨id, hid⟩ := requireId_accepts.mpr hname
    obtain ⟨variableId, hvariable⟩ := optionalText_accepts.mpr htext
    exact ⟨⟨id, _, side, variableId⟩, readPort_eq_ok.mpr ⟨rfl, hvariable, hid, rfl⟩⟩

theorem readPorts_accepts {node : String} {side : Side} {v : Value} :
    (∃ ports, readPorts node side v = .ok ports) ↔ v.AbsentOr (IsListOf (IsRecord IsPort)) := by
  rw [← readList_accepts readPort_accepts (.node node) v]
  constructor
  · rintro ⟨ports, hports⟩
    obtain ⟨items, hitems, hread⟩ := bind_eq_ok.mp hports
    exact ⟨items, hitems, ports, hread⟩
  · rintro ⟨items, hitems, ports, hread⟩
    exact ⟨ports, bind_eq_ok.mpr ⟨items, hitems, hread⟩⟩

/-- The ports of a type are taken where there is nothing that could fail to be read. -/
theorem portsOf_accepts {p : Palette} {node typeName : String} {detail : Fields} :
    (∃ ports, portsOf p node typeName detail = .ok ports) ↔
      (detail.get "inputs").AbsentOr (IsListOf (IsRecord IsPort)) ∧
      (detail.get "outputs").AbsentOr (IsListOf (IsRecord IsPort)) := by
  unfold portsOf
  split
  · constructor
    · rintro ⟨_, hports⟩
      obtain ⟨inputs, hinputs, hrest⟩ := bind_eq_ok.mp hports
      obtain ⟨outputs, houtputs, -⟩ := bind_eq_ok.mp hrest
      exact ⟨readPorts_accepts.mp ⟨inputs, hinputs⟩, readPorts_accepts.mp ⟨outputs, houtputs⟩⟩
    · rintro ⟨hin, hout⟩
      obtain ⟨inputs, hinputs⟩ := readPorts_accepts.mpr hin
      obtain ⟨outputs, houtputs⟩ := readPorts_accepts.mpr hout
      exact ⟨(inputs, outputs),
        bind_eq_ok.mpr ⟨inputs, hinputs, bind_eq_ok.mpr ⟨outputs, houtputs, rfl⟩⟩⟩
  · next hnone =>
    have hmissing : ∀ name, detail.has name = false → detail.get name = .null := by
      intro name hname
      unfold Fields.has at hname
      rw [Fields.get, Option.isSome_eq_false_iff.mp hname |> Option.isNone_iff_eq_none.mp]
      rfl
    rw [Bool.or_eq_true, not_or, Bool.not_eq_true, Bool.not_eq_true] at hnone
    refine iff_of_true ?_ ⟨Or.inl ?_, Or.inl ?_⟩
    · split <;> exact ⟨_, rfl⟩
    · exact hmissing "inputs" hnone.1
    · exact hmissing "outputs" hnone.2

theorem readSettings_accepts {node : String} {v : Value} :
    (∃ settings, readSettings node v = .ok settings) ↔ v.AbsentOr IsMap := by
  constructor
  · rintro ⟨settings, h⟩
    rcases readSettings_eq_ok.mp h with ⟨hnull, -⟩ | ⟨fields, hmap, -⟩
    · exact Or.inl hnull
    · exact Or.inr ⟨fields, hmap⟩
  · rintro (hnull | ⟨fields, hmap⟩)
    · exact ⟨_, readSettings_eq_ok.mpr (Or.inl ⟨hnull, rfl⟩)⟩
    · exact ⟨_, readSettings_eq_ok.mpr (Or.inr ⟨fields, hmap, rfl⟩)⟩

theorem settingsValue_accepts {record detail : Fields} :
    (settingsValue record detail).AbsentOr IsMap ↔ (detail.get "properties").IsMap ∨
      detail.get "properties" = .null ∧ (record.get "properties").AbsentOr IsMap := by
  unfold settingsValue
  rw [Fields.spelled_of_snakeCase (by decide)]
  split
  · next hnull => simp [hnull, IsMap]
  · next hne =>
    have hnull : detail.get "properties" ≠ .null := hne
    simp [hnull, AbsentOr]

/-- A value that is not vacant is taken before those that come after it. -/
theorem orElse_eq_find? (a b c : Value) :
    (a.orElse b).orElse c = ([a, b].find? (!·.isVacant)).getD c := by
  cases ha : a.isVacant with
  | false => simp [Value.orElse, ha]
  | true =>
    cases hb : b.isVacant with
    | false => simp [Value.orElse, ha, hb]
    | true => simp [Value.orElse, ha, hb]

theorem statedType_accepts {node : String} {record detail : Fields} :
    (∃ stated, statedType node record detail = .ok stated) ↔
      ∀ v, [detail.get "type", record.get "type"].find? (!·.isVacant) = some v → v.IsText := by
  have hexists : (∃ stated, statedType node record detail = .ok stated) ↔
      (((detail.get "type").orElse (record.get "type")).orElse (.str "Custom")).IsText :=
    exists_congr fun _ => statedType_eq_ok
  rw [hexists, orElse_eq_find?]
  cases [detail.get "type", record.get "type"].find? (!·.isVacant) with
  | none => simp [IsText]
  | some v => simp

theorem readNode_accepts (p : Palette) (k : Nat) (v : Value) :
    (∃ n, (readNode p k v).result = .ok n) ↔ v.IsRecord IsNode := by
  constructor
  · rintro ⟨n, hn⟩
    have hread := Load.eq_ok_of_result hn
    obtain ⟨record, hmap, -⟩ := Load.lift_bind_eq_ok.mp hread
    obtain rfl := asMap_eq_ok.mp hmap
    obtain ⟨hid, detail, stated, hdetail, hstated, -, hports, hsettings, -⟩ :=
      readNode_eq_ok.mp hread
    obtain ⟨hinputs, houtputs⟩ := portsOf_accepts.mp ⟨_, hports⟩
    refine ⟨record, rfl, requireId_accepts.mp ⟨_, hid⟩, detail, ?_, ?_⟩
    · exact (detailOf_eq_ok.mp hdetail).symm
    · exact ⟨statedType_accepts.mp ⟨_, hstated⟩, hinputs, houtputs,
        settingsValue_accepts.mp (readSettings_accepts.mp ⟨_, hsettings⟩)⟩
  · rintro ⟨record, rfl, hname, detail, hdescribes, hdetail⟩
    obtain ⟨id, hid⟩ := requireId_accepts.mpr hname
    have hof : detailOf id record = .ok detail := detailOf_eq_ok.mpr hdescribes.symm
    obtain ⟨stated, hstated⟩ : ∃ stated, statedType id record detail = .ok stated :=
      statedType_accepts.mpr hdetail.type
    -- a type is always found, if need be the one for custom nodes
    obtain ⟨ws, typeName, role, htype⟩ :
        ∃ ws typeName role, readType p id stated = ⟨ws, .ok (typeName, role)⟩ := by
      unfold readType
      split
      · exact ⟨_, _, _, rfl⟩
      · exact ⟨_, _, _, rfl⟩
    obtain ⟨⟨inputs, outputs⟩, hports⟩ : ∃ ports, portsOf p id typeName detail = .ok ports :=
      portsOf_accepts.mpr ⟨hdetail.inputs, hdetail.outputs⟩
    obtain ⟨settings, hsettings⟩ :
        ∃ settings, readSettings id (settingsValue record detail) = .ok settings :=
      readSettings_accepts.mpr (settingsValue_accepts.mpr hdetail.properties)
    let n : Node := ⟨id, role, labelOf record detail, typeName, inputs, outputs, settings⟩
    have hread : readNode p k (.map record) = ⟨ws, .ok n⟩ :=
      readNode_eq_ok.mpr ⟨hid, detail, stated, hof, hstated, htype, hports, hsettings, rfl⟩
    exact ⟨n, by rw [hread]⟩

/-! ## Edges -/

/-- A key that is its own snake case is asked for twice. -/
theorem spelled_eq_under {name snake plain : String} (hname : Text.snakeCase name = snake)
    (hplain : Text.snakeCase plain = plain) (record : Fields) :
    record.spelled [name, plain] = record.under [name, snake, plain] := by
  rw [Fields.spelled_cons, hname, Fields.spelled_of_snakeCase hplain]
  unfold Fields.under Fields.get
  simp only [List.findSome?_cons, List.findSome?_nil]
  cases record.get? name with
  | some v => rfl
  | none =>
    cases record.get? snake with
    | some v => rfl
    | none => cases record.get? plain <;> rfl

theorem sourceOf_eq_under (record : Fields) :
    sourceOf record = record.under ["sourceNode", "source_node", "source"] :=
  spelled_eq_under (by decide) (by decide) record

theorem targetOf_eq_under (record : Fields) :
    targetOf record = record.under ["targetNode", "target_node", "target"] :=
  spelled_eq_under (by decide) (by decide) record

theorem readLink_accepts {place : Place} {id : String} {source target : Value} {ends : Fault}
    {record : Fields} :
    (∃ link, readLink place id source target ends record = .ok link) ↔
      source.IsText ∧ target.IsText ∧
      (record.under ["sourcePort", "source_port"]).AbsentOr IsText ∧
      (record.under ["targetPort", "target_port"]).AbsentOr IsText ∧
      (record.get "kind").AbsentOr IsFlow := by
  constructor
  · rintro ⟨link, hlink⟩
    obtain ⟨hs, ht, hsourcePort, htargetPort, hflow, -⟩ := readLink_eq_ok.mp hlink
    exact ⟨⟨_, hs⟩, ⟨_, ht⟩, optionalText_accepts.mp ⟨_, hsourcePort⟩,
      optionalText_accepts.mp ⟨_, htargetPort⟩, optionalFlow_accepts.mp ⟨_, hflow⟩⟩
  · rintro ⟨⟨s, hs⟩, ⟨t, ht⟩, hsourceText, htargetText, hkind⟩
    obtain ⟨sourcePort, hsourcePort⟩ := optionalText_accepts.mpr hsourceText
    obtain ⟨targetPort, htargetPort⟩ := optionalText_accepts.mpr htargetText
    obtain ⟨flow, hflow⟩ := optionalFlow_accepts.mpr hkind
    exact ⟨⟨id, s, t, sourcePort, targetPort, flow⟩,
      readLink_eq_ok.mpr ⟨hs, ht, hsourcePort, htargetPort, hflow, rfl⟩⟩

/-- Where there is nothing to fall back to, the ends are texts. -/
theorem readLink_accepts_of_ends {place : Place} {id : String} {ends : Fault} {record : Fields} :
    (∃ link, readLink place id (sourceOf record) (targetOf record) ends record = .ok link) ↔
      IsLink IsText record := by
  rw [readLink_accepts, sourceOf_eq_under, targetOf_eq_under]
  exact ⟨fun ⟨hs, ht, hsp, htp, hk⟩ => ⟨hs, ht, hsp, htp, hk⟩,
    fun h => ⟨h.source, h.target, h.sourcePort, h.targetPort, h.kind⟩⟩

theorem endOr_isText (v : Value) (id : String) :
    (endOr v (some id)).IsText ↔ v.AbsentOr IsText := by
  cases v with
  | scalar s => cases s <;> simp [endOr, IsText, AbsentOr]
  | list items => simp [endOr, IsText, AbsentOr]
  | map fields => simp [endOr, IsText, AbsentOr]

/-- With ends to fall back to, those of the record may be absent. -/
theorem readLink_accepts_of_fallback {place : Place} {id : String} {ends : Fault}
    {record : Fields} (s : Link) :
    (∃ link, readLink place id (endOr (sourceOf record) (some s.source))
      (endOr (targetOf record) (some s.target)) ends record = .ok link) ↔
      IsLink (AbsentOr IsText) record := by
  rw [readLink_accepts, endOr_isText, endOr_isText, sourceOf_eq_under, targetOf_eq_under]
  exact ⟨fun ⟨hs, ht, hsp, htp, hk⟩ => ⟨hs, ht, hsp, htp, hk⟩,
    fun h => ⟨h.source, h.target, h.sourcePort, h.targetPort, h.kind⟩⟩

theorem readEdge_accepts (k : Nat) (v : Value) :
    (∃ e, readEdge k v = .ok e) ↔ v.IsRecord IsEdge := by
  constructor
  · rintro ⟨⟨link, snapshot⟩, he⟩
    obtain ⟨record, hmap, -⟩ := bind_eq_ok.mp he
    obtain rfl := asMap_eq_ok.mp hmap
    obtain ⟨hid, hsnapshot, hlink⟩ := readEdge_eq_ok.mp he
    refine ⟨record, rfl, requireId_accepts.mp ⟨_, hid⟩, ?_⟩
    rcases snapshotOf_eq_ok.mp hsnapshot with ⟨hnone, rfl⟩ | ⟨nested, s, hnested, rfl, hread⟩
    · rw [Option.map_none, Option.map_none, endOr_none, endOr_none] at hlink
      exact Or.inl ⟨hnone, readLink_accepts_of_ends.mp ⟨_, hlink⟩⟩
    · exact Or.inr ⟨nested, hnested, readLink_accepts_of_ends.mp ⟨_, hread⟩,
        (readLink_accepts_of_fallback s).mp ⟨_, hlink⟩⟩
  · rintro ⟨record, rfl, hname, hlinks⟩
    obtain ⟨id, hid⟩ : ∃ id, requireId (.edgeAt k) record = .ok id := requireId_accepts.mpr hname
    rcases hlinks with ⟨hnone, hlink⟩ | ⟨nested, hnested, hinner, houter⟩
    · obtain ⟨link, hread⟩ : ∃ link, readLink (.edge id) id (sourceOf record) (targetOf record)
          .endsMissing record = .ok link := readLink_accepts_of_ends.mpr hlink
      obtain rfl : id = link.id := (readLink_eq_ok.mp hread).2.2.2.2.2
      refine ⟨⟨link, none⟩, readEdge_eq_ok.mpr ⟨hid, ?_, ?_⟩⟩
      · exact snapshotOf_eq_ok.mpr (Or.inl ⟨hnone, rfl⟩)
      · rw [Option.map_none, Option.map_none, endOr_none, endOr_none]
        exact hread
    · obtain ⟨s, hs⟩ : ∃ s, readLink (.edge id) ((nested.get? "id").getD (.str "")).plain
          (sourceOf nested) (targetOf nested) .nestedEndsMissing nested = .ok s :=
        readLink_accepts_of_ends.mpr hinner
      obtain ⟨link, hread⟩ : ∃ link, readLink (.edge id) id
          (endOr (sourceOf record) (some s.source)) (endOr (targetOf record) (some s.target))
          .endsMissing record = .ok link := (readLink_accepts_of_fallback s).mpr houter
      obtain rfl : id = link.id := (readLink_eq_ok.mp hread).2.2.2.2.2
      refine ⟨⟨link, some s⟩, readEdge_eq_ok.mpr ⟨hid, ?_, hread⟩⟩
      exact snapshotOf_eq_ok.mpr (Or.inr ⟨nested, s, hnested, rfl, hs⟩)

/-! ## Documents -/

/-- **A document is read exactly if it is in the grammar**, whatever the palette. -/
theorem readDiagram_accepts_iff (p : Palette) (v : Value) :
    (∃ d, (readDiagram p v).result = .ok d) ↔ IsDocument v := by
  have hnodes := readList_accepts (readNode_accepts p) .graphNodes
  have hedges := readList_accepts readEdge_accepts .graphEdges
  constructor
  · rintro ⟨d, hd⟩
    obtain ⟨record, nodeItems, edgeItems, rfl, hnodeItems, hread, hedgeItems, hread'⟩ :=
      readDiagram_eq_ok.mp (Load.eq_ok_of_result hd)
    refine ⟨record, rfl, (hnodes _).mp ⟨nodeItems, hnodeItems, d.nodes, ?_⟩,
      (hedges _).mp ⟨edgeItems, hedgeItems, d.edges, hread'⟩⟩
    rw [← result_readEach, hread]
  · rintro ⟨record, rfl, hgraph⟩
    obtain ⟨nodeItems, hnodeItems, nodes, hread⟩ := (hnodes _).mpr hgraph.nodes
    obtain ⟨edgeItems, hedgeItems, edges, hread'⟩ := (hedges _).mpr hgraph.edges
    rw [← result_readEach] at hread
    let d : Diagram := ⟨nodes, edges⟩
    have hdiagram : readDiagram p (.map record) = ⟨_, .ok d⟩ :=
      readDiagram_eq_ok.mpr ⟨record, nodeItems, edgeItems, rfl, hnodeItems,
        Load.eq_ok_of_result hread, hedgeItems, hread'⟩
    exact ⟨d, by rw [hdiagram]⟩

end Document

end Blueprint
