import Blueprint.Proofs.Reading
import Blueprint.Proofs.Snapshots

/-!
# Proofs: documents without nested records

Older documents nest a second record in the record of a node or an edge. Which of the two a field is
taken from differs from field to field: the first that is not vacant, the first that is not absent,
or always the nested one. `unnest` writes the outcome into one flat record. A node is read from it
as before (`readNode_unnestNode`). An edge loses its snapshot, but it states by itself what the
snapshot stated for it (`readEdge_unnestEdge`), so that the rest follows from `Diagram.filled`.
-/

namespace Blueprint

namespace Value

/-- A value, or another one in the place of the absent one. -/
def orIfAbsent (v fallback : Value) : Value :=
  match v with
  | .null => fallback
  | v => v

theorem orIfAbsent_self (v : Value) : v.orIfAbsent v = v := by
  unfold orIfAbsent
  split <;> rfl

theorem orElse_self (v : Value) : v.orElse v = v := by
  unfold orElse
  split <;> rfl

theorem orElse_assoc (a b c : Value) : (a.orElse b).orElse c = a.orElse (b.orElse c) := by
  unfold orElse
  by_cases h : a.isVacant = true
  · rw [if_pos h, if_pos h]
  · rw [if_neg h, if_neg h, if_neg h]

end Value

namespace Document

/-! ## Flat records -/

/-- What a node record and the record nested in it say together. -/
def nodeFields (record detail : Fields) : List (String × Option Value) :=
  [("id", record.get? "id"),
   ("type", some ((detail.get "type").orElse (record.get "type"))),
   ("inputs", detail.get? "inputs"),
   ("outputs", detail.get? "outputs"),
   ("customLabel", some (detail.spelled ["customLabel"])),
   ("label", some ((record.get "label").orElse (detail.get "label"))),
   ("properties", some ((detail.get "properties").orIfAbsent (record.get "properties")))]

/-- What an edge record and the record nested in it say together. -/
def edgeFields (record nested : Fields) : List (String × Option Value) :=
  [("id", record.get? "id"),
   ("sourceNode", some ((sourceOf record).orIfAbsent (sourceOf nested))),
   ("targetNode", some ((targetOf record).orIfAbsent (targetOf nested))),
   ("sourcePort",
     some ((record.spelled ["sourcePort"]).orIfAbsent (nested.spelled ["sourcePort"]))),
   ("targetPort",
     some ((record.spelled ["targetPort"]).orIfAbsent (nested.spelled ["targetPort"]))),
   ("kind", some ((record.get "kind").orIfAbsent (nested.get "kind")))]

/-- A record, or the flat one in its place if it nests another under the given key. -/
def unnestRecord (key : String) (fields : Fields → Fields → List (String × Option Value)) :
    Value → Value
  | .map record =>
    match Fields.spelled record [key] with
    | .map nested => .map (Fields.ofNamed (fields record nested))
    | _ => .map record
  | v => v

def unnestNode : Value → Value := unnestRecord "blueprintNode" nodeFields

def unnestEdge : Value → Value := unnestRecord "blueprintEdge" edgeFields

/-- Changes the items of a list. -/
def eachItem (f : Value → Value) : Value → Value
  | .list items => .list (items.map f)
  | v => v

def unnestField (key : Scalar) (v : Value) : Value :=
  if key = .str "nodes" then eachItem unnestNode v
  else if key = .str "edges" then eachItem unnestEdge v
  else v

/-- A document with flat records of nodes and edges. -/
def unnest : Value → Value
  | .map record => .map (record.map fun entry => (entry.1, unnestField entry.1 entry.2))
  | v => v

/-- A record nests another one under a key. -/
def Nests (key : String) (v : Value) : Prop :=
  ∃ record nested : Fields, v = .map record ∧ record.spelled [key] = .map nested

/-- No record of a node or an edge in a document nests another one. -/
def IsFlat (v : Value) : Prop :=
  ∀ record : Fields, v = .map record →
    (∀ items, record.get "nodes" = .list items → ∀ item ∈ items, ¬ Nests "blueprintNode" item) ∧
    (∀ items, record.get "edges" = .list items → ∀ item ∈ items, ¬ Nests "blueprintEdge" item)

theorem get?_nodeFields (record detail : Fields) (name : String) :
    (Fields.ofNamed (nodeFields record detail)).get? name =
      ((nodeFields record detail).lookup name).join :=
  Fields.get?_ofNamed (by simp [nodeFields]) name

theorem get?_edgeFields (record nested : Fields) (name : String) :
    (Fields.ofNamed (edgeFields record nested)).get? name =
      ((edgeFields record nested).lookup name).join :=
  Fields.get?_ofNamed (by simp [edgeFields]) name

theorem spelled_nodeFields (record detail : Fields) :
    (Fields.ofNamed (nodeFields record detail)).spelled ["blueprintNode"] = .null := by
  rw [Fields.spelled_cons, get?_nodeFields, get?_nodeFields]
  rfl

theorem spelled_edgeFields (record nested : Fields) :
    (Fields.ofNamed (edgeFields record nested)).spelled ["blueprintEdge"] = .null := by
  rw [Fields.spelled_cons, get?_edgeFields, get?_edgeFields]
  rfl

theorem not_nests_unnestRecord {key : String}
    {fields : Fields → Fields → List (String × Option Value)}
    (h : ∀ record nested, (Fields.ofNamed (fields record nested)).spelled [key] = .null)
    (v : Value) : ¬ Nests key (unnestRecord key fields v) := by
  rintro ⟨record, nested, hv, hnested⟩
  unfold unnestRecord at hv
  split at hv
  · split at hv
    · obtain rfl := Value.map.inj hv
      rw [h] at hnested
      cases hnested
    · next hne =>
      obtain rfl := Value.map.inj hv
      exact hne nested hnested
  · next hne => exact hne record hv

theorem unnestField_nodes : unnestField (.str "nodes") = eachItem unnestNode := by
  funext v
  exact if_pos rfl

theorem unnestField_edges : unnestField (.str "edges") = eachItem unnestEdge := by
  funext v
  unfold unnestField
  rw [if_neg (by decide), if_pos rfl]

theorem get_unnest (record : Fields) {name : String} {f : Value → Value}
    (hfield : unnestField (.str name) = eachItem f) :
    Fields.get (record.map fun entry => (entry.1, unnestField entry.1 entry.2)) name =
      eachItem f (record.get name) := by
  unfold Fields.get
  rw [Fields.get?_map, hfield]
  cases record.get? name <;> rfl

theorem mem_eachItem {f : Value → Value} {v item : Value} {items : List Value}
    (h : eachItem f v = .list items) (hitem : item ∈ items) : ∃ item₀, f item₀ = item := by
  unfold eachItem at h
  split at h
  · obtain rfl := Value.list.inj h
    obtain ⟨item₀, -, hitem₀⟩ := List.mem_map.mp hitem
    exact ⟨item₀, hitem₀⟩
  · next hne => exact absurd h (hne items)

theorem isFlat_unnest (v : Value) : IsFlat (unnest v) := by
  intro flat hflat
  unfold unnest at hflat
  split at hflat
  · next record =>
    obtain rfl := Value.map.inj hflat
    rw [get_unnest record unnestField_nodes, get_unnest record unnestField_edges]
    constructor
    · intro items hitems item hitem
      obtain ⟨item₀, rfl⟩ := mem_eachItem hitems hitem
      exact not_nests_unnestRecord spelled_nodeFields item₀
    · intro items hitems item hitem
      obtain ⟨item₀, rfl⟩ := mem_eachItem hitems hitem
      exact not_nests_unnestRecord spelled_edgeFields item₀
  · next hne => exact absurd hflat (hne flat)

/-! ## Nodes -/

section Node

variable (record detail : Fields) (node : String)

theorem requireId_nodeFields (place : Place) :
    requireId place (.ofNamed (nodeFields record detail)) = requireId place record :=
  requireId_congr (get?_nodeFields record detail "id") place

theorem detailOf_nodeFields :
    detailOf node (.ofNamed (nodeFields record detail)) =
      .ok (.ofNamed (nodeFields record detail)) := by
  unfold detailOf
  rw [spelled_nodeFields]

theorem statedType_nodeFields :
    statedType node (.ofNamed (nodeFields record detail)) (.ofNamed (nodeFields record detail)) =
      statedType node record detail := by
  have htype : (Fields.ofNamed (nodeFields record detail)).get "type" =
      (detail.get "type").orElse (record.get "type") :=
    Fields.get_of_get? (get?_nodeFields record detail "type")
  unfold statedType
  rw [Fields.spelled_of_snakeCase (by decide), Fields.spelled_of_snakeCase (by decide), htype,
    Value.orElse_self]

theorem portsOf_nodeFields (p : Palette) (typeName : String) :
    portsOf p node typeName (.ofNamed (nodeFields record detail)) =
      portsOf p node typeName detail := by
  unfold portsOf Fields.has Fields.get
  rw [get?_nodeFields, get?_nodeFields]
  rfl

theorem settingsValue_nodeFields :
    settingsValue (.ofNamed (nodeFields record detail)) (.ofNamed (nodeFields record detail)) =
      settingsValue record detail := by
  have hvalue : ∀ record detail : Fields, settingsValue record detail =
      (detail.get "properties").orIfAbsent (record.get "properties") := by
    intro record detail
    unfold settingsValue
    rw [Fields.spelled_of_snakeCase (by decide)]
    rfl
  have hproperties : (Fields.ofNamed (nodeFields record detail)).get "properties" =
      (detail.get "properties").orIfAbsent (record.get "properties") :=
    Fields.get_of_get? (get?_nodeFields record detail "properties")
  rw [hvalue, hvalue, hproperties, Value.orIfAbsent_self]

theorem labelOf_nodeFields :
    labelOf (.ofNamed (nodeFields record detail)) (.ofNamed (nodeFields record detail)) =
      labelOf record detail := by
  have hcustom : (Fields.ofNamed (nodeFields record detail)).spelled ["customLabel"] =
      detail.spelled ["customLabel"] :=
    Fields.spelled_of_get? (get?_nodeFields record detail "customLabel") []
  have hlabel : (Fields.ofNamed (nodeFields record detail)).get "label" =
      (record.get "label").orElse (detail.get "label") :=
    Fields.get_of_get? (get?_nodeFields record detail "label")
  -- in the flat record the label of both is asked for twice
  have htwice : ∀ a b c e : Value, (a.orElse (b.orElse c)).orElse ((b.orElse c).orElse e) =
      (a.orElse b).orElse (c.orElse e) := by
    intro a b c e
    rw [Value.orElse_assoc a, ← Value.orElse_assoc _ _ e, Value.orElse_self, Value.orElse_assoc b,
      Value.orElse_assoc a]
  unfold labelOf
  rw [hcustom, hlabel, htwice]

end Node

/-- A node is read from its flat record as from the nested ones, also if that fails. -/
theorem readNode_unnestNode (p : Palette) (k : Nat) (v : Value) :
    readNode p k (unnestNode v) = readNode p k v := by
  unfold unnestNode unnestRecord
  split
  · next record =>
    split
    · next detail hnested =>
      have hdetail : ∀ node, detailOf node record = .ok detail := by
        intro node
        unfold detailOf
        rw [hnested]
        rfl
      unfold readNode
      simp only [asMap, Load.lift_ok_bind, requireId_nodeFields, detailOf_nodeFields, hdetail,
        statedType_nodeFields, portsOf_nodeFields, settingsValue_nodeFields, labelOf_nodeFields]
    · rfl
  · rfl

/-! ## Edges -/

/-- A field that may be absent, taken from two records. -/
theorem read_orIfAbsent {α : Type} {read : Value → Except Malformed (Option α)}
    (hread : ∀ v, read v = .ok none ↔ v = .null) {v fallback : Value} {a b : Option α}
    (hv : read v = .ok a) (hfallback : read fallback = .ok b) :
    read (v.orIfAbsent fallback) = .ok (a.or b) := by
  unfold Value.orIfAbsent
  split
  · obtain rfl : a = none := by simpa [(hread .null).mpr rfl] using hv.symm
    rw [Option.none_or]
    exact hfallback
  · next hne =>
    cases a with
    | none => exact absurd ((hread v).mp hv) hne
    | some x => exact hv

theorem optionalText_eq_none {place : Place} {key : String} (v : Value) :
    optionalText place key v = .ok none ↔ v = .null := by
  unfold optionalText
  split <;> simp_all

theorem optionalFlow_eq_none {place : Place} (v : Value) :
    optionalFlow place v = .ok none ↔ v = .null := by
  unfold optionalFlow
  split
  · simp
  · split <;> simp
  · simp_all

theorem endOr_some (stated : Value) (id : String) :
    endOr stated (some id) = stated.orIfAbsent (.str id) := by
  unfold endOr Value.orIfAbsent
  split
  · next h => cases h; rfl
  · next hne =>
    split
    · exact absurd rfl (hne id rfl)
    · rfl

/-- What an edge record with its snapshot is read as, the flat record is read as with the gaps
filled. -/
theorem readEdge_edgeFields {k : Nat} {record nested : Fields} {e : Edge} {s : Link} {id : String}
    (he : readEdge k (.map record) = .ok e) (hs : e.snapshot = some s)
    (hnested : readLink (.edge e.id) id (sourceOf nested) (targetOf nested) .nestedEndsMissing
      nested = .ok s) :
    readEdge k (.map (Fields.ofNamed (edgeFields record nested))) = .ok e.filled := by
  obtain ⟨hid, -, hlink⟩ := readEdge_eq_ok.mp he
  obtain ⟨hsource, htarget, hsourcePort, htargetPort, hflow, -⟩ := readLink_eq_ok.mp hlink
  obtain ⟨hsource', htarget', hsourcePort', htargetPort', hflow', -⟩ := readLink_eq_ok.mp hnested
  have hget := get?_edgeFields record nested
  rw [hs, Option.map_some, endOr_some, ← hsource'] at hsource
  rw [hs, Option.map_some, endOr_some, ← htarget'] at htarget
  rw [Edge.filled_of_snapshot hs]
  refine readEdge_eq_ok.mpr ⟨(requireId_congr (hget "id") _).trans hid,
    snapshotOf_eq_ok.mpr (Or.inl ⟨spelled_edgeFields record nested, rfl⟩),
    readLink_eq_ok.mpr ⟨?_, ?_, ?_, ?_, ?_, rfl⟩⟩
  · show endOr (sourceOf _) none = _
    rw [endOr_none]
    exact (Fields.spelled_of_get? (hget "sourceNode") _).trans hsource
  · show endOr (targetOf _) none = _
    rw [endOr_none]
    exact (Fields.spelled_of_get? (hget "targetNode") _).trans htarget
  · rw [Fields.spelled_of_get? (hget "sourcePort")]
    exact read_orIfAbsent optionalText_eq_none hsourcePort hsourcePort'
  · rw [Fields.spelled_of_get? (hget "targetPort")]
    exact read_orIfAbsent optionalText_eq_none htargetPort htargetPort'
  · rw [Fields.get_of_get? (hget "kind")]
    exact read_orIfAbsent optionalFlow_eq_none hflow hflow'

theorem readEdge_unnestEdge {k : Nat} {v : Value} {e : Edge} (he : readEdge k v = .ok e) :
    readEdge k (unnestEdge v) = .ok e.filled := by
  obtain ⟨record, hmap, -⟩ := bind_eq_ok.mp he
  obtain rfl := asMap_eq_ok.mp hmap
  unfold unnestEdge unnestRecord
  obtain ⟨-, hsnapshot, -⟩ := readEdge_eq_ok.mp he
  rcases snapshotOf_eq_ok.mp hsnapshot with ⟨hnone, hs⟩ | ⟨nested, s, hnested, hs, hread⟩
  · simp only [hnone]
    rw [Edge.filled_of_no_snapshot hs]
    exact he
  · simp only [hnested]
    exact readEdge_edgeFields he hs hread

/-! ## Documents -/

theorem asList_eachItem {place : Place} {v : Value} {items : List Value} (f : Value → Value)
    (h : asList place v = .ok items) : asList place (eachItem f v) = .ok (items.map f) := by
  unfold asList at h
  split at h
  · cases h
    rfl
  · cases h
    rfl
  · cases h

/-- Where the nested document is read, the flat one is read as the same diagram, but for snapshots:
the gaps that they filled are filled. -/
theorem readDiagram_unnest {p : Palette} {v : Value} {ws : List Warning} {d : Diagram}
    (h : readDiagram p v = ⟨ws, .ok d⟩) : readDiagram p (unnest v) = ⟨ws, .ok d.filled⟩ := by
  obtain ⟨record, nodeItems, edgeItems, rfl, hnodeItems, hnodes, hedgeItems, hedges⟩ :=
    readDiagram_eq_ok.mp h
  refine readDiagram_eq_ok.mpr
    ⟨_, nodeItems.map unnestNode, edgeItems.map unnestEdge, rfl, ?_, ?_, ?_, ?_⟩
  · rw [get_unnest record unnestField_nodes]
    exact asList_eachItem unnestNode hnodeItems
  · rw [readEach_map (readNode_unnestNode p)]
    exact hnodes
  · rw [get_unnest record unnestField_edges]
    exact asList_eachItem unnestEdge hedgeItems
  · exact readEach_map_ok (fun _ _ _ => readEdge_unnestEdge) hedges

/-- **Flat records mean what nested ones mean.** Where a document is read, the document without
nested records is read too: as the same nodes, with the same warnings, and without snapshots. No
inspection and no preview tells the two diagrams apart, under whatever palette. -/
theorem unnest_preserves_meaning (p : Palette) (v : Value) (d : Diagram)
    (h : (readDiagram p v).result = .ok d) :
    IsFlat (unnest v) ∧ ∃ d', (readDiagram p (unnest v)).result = .ok d' ∧
      (readDiagram p (unnest v)).warnings = (readDiagram p v).warnings ∧
      d'.nodes = d.nodes ∧ (∀ e ∈ d'.edges, e.snapshot = none) ∧
      ∀ (q : Palette) (declarations : List Declaration),
        (d'.inspect q).ReadsSame (d.inspect q) ∧
        d'.preview q declarations = d.preview q declarations := by
  have hflat := readDiagram_unnest (Load.eq_ok_of_result h)
  refine ⟨isFlat_unnest v, d.filled, by rw [hflat], by rw [hflat], rfl, ?_, ?_⟩
  · intro e he
    obtain ⟨e₀, -, rfl⟩ := List.mem_map.mp he
    rfl
  · intro q declarations
    exact ⟨d.inspect_filled q, d.preview_filled q declarations⟩

/-- An older document. The nested record of the node overrides its type, and that of the edge gives
the target, a port and the kind, but not the source. -/
theorem unnest_preserves_meaning_of_older_document :
    let v : Value := .map
      [(.str "nodes", .list
         [.map [(.str "id", .str "s"), (.str "type", .str "Start")],
          .map [(.str "id", .str "x"), (.str "type", .str "Function"), (.str "label", .str ""),
            (.str "blueprint_node", .map [(.str "type", .str "Variable"),
              (.str "label", .str "count"),
              (.str "outputs", .list [.map [(.str "id", .str "value")]])])]]),
       (.str "edges", .list
         [.map [(.str "id", .str "1"), (.str "source", .str "x"), (.str "kind", .null),
            (.str "blueprintEdge", .map [(.str "source_node", .str "y"), (.str "target", .str "s"),
              (.str "source_port", .str "value"), (.str "kind", .str "data")])]])]
    let declarations : List Declaration := [{ id := "count", name := "count" }]
    ∃ d d', (readDiagram .empty v).result = .ok d ∧ d.edges.any (·.snapshot.isSome) = true ∧
      IsFlat (unnest v) ∧ (readDiagram .empty (unnest v)).result = .ok d' ∧ d'.nodes = d.nodes ∧
      (∀ e ∈ d'.edges, e.snapshot = none) ∧
      (d'.inspect .standard).ReadsSame (d.inspect .standard) ∧
      d'.preview .standard declarations = d.preview .standard declarations := by
  intro v declarations
  let snapshot : Link :=
    { id := "", source := "y", target := "s", sourcePort := some "value", statedFlow := some .data }
  let d : Diagram :=
    { nodes := [{ id := "s", role := .entry, typeName := "Start" },
        { id := "x", role := .storage, label := "count", typeName := "Variable",
          outputs := [{ id := "value", side := .output }] }]
      edges := [{ id := "1", source := "x", target := "s", snapshot := some snapshot }] }
  have hread : (readDiagram .empty v).result = .ok d := by rfl
  obtain ⟨hflat, d', hread', -, hnodes, hedges, hsame⟩ :=
    unnest_preserves_meaning .empty v d hread
  exact ⟨d, d', hread, rfl, hflat, hread', hnodes, hedges, hsame .standard declarations⟩

end Document

end Blueprint
