import Blueprint.Inspection.Basic
import Blueprint.Proofs.Agreement
import Blueprint.Proofs.Grammar

/-!
# Proofs: palettes with more types

Registering types never changes what a name stands for already (`Extends`). So what a palette knows
of a diagram it still knows after more types were registered: inspection and preview come out the
same, and a document whose types are all registered is read the same. A document with other types
may be read differently, but with no warning that was not raised before.
-/

namespace Blueprint

namespace Palette

/-- The palette `p'` knows the types of `p`, and has its bridges. -/
structure Extends (p p' : Palette) : Prop where
  find? : ∀ {name t}, p.find? name = some t → p'.find? name = some t
  bridges : p'.bridges = p.bridges

theorem Extends.refl (p : Palette) : p.Extends p := ⟨id, rfl⟩

theorem Extends.trans {p p' p'' : Palette} (h : p.Extends p') (h' : p'.Extends p'') :
    p.Extends p'' :=
  ⟨fun hfound => h'.find? (h.find? hfound), h'.bridges.trans h.bridges⟩

theorem extends_register {p p' : Palette} {t : NodeType} (h : p.register t = .ok p') :
    p.Extends p' := by
  unfold register at h
  split at h
  · split at h
    · obtain rfl := Except.ok.inj h
      exact .refl p
    · exact absurd h (by simp)
  · -- the new type stands behind all the others
    obtain rfl := Except.ok.inj h
    refine ⟨fun {name known} hfound => ?_, rfl⟩
    show (p.types ++ [t]).find? (·.name == name) = some known
    rw [List.find?_append]
    exact Option.or_eq_some_iff.mpr (Or.inl hfound)

theorem extends_registerAll {p p' : Palette} {types : List NodeType}
    (h : p.registerAll types = .ok p') : p.Extends p' := by
  unfold registerAll at h
  induction types generalizing p with
  | nil =>
    obtain rfl := Except.ok.inj h
    exact .refl p
  | cons t types ih =>
    rw [List.foldlM_cons] at h
    obtain ⟨q, hq, hrest⟩ := Document.bind_eq_ok.mp h
    exact (extends_register hq).trans (ih hrest)

namespace Extends

variable {p p' : Palette}

theorem find?_eq (h : p.Extends p') {name : String} (hname : p.contains name = true) :
    p'.find? name = p.find? name := by
  obtain ⟨t, ht⟩ := Option.isSome_iff_exists.mp hname
  rw [ht, h.find? ht]

theorem isVariable_eq (h : p.Extends p') {n : Node} (hn : p.contains n.typeName = true) :
    p'.isVariable n = p.isVariable n := by
  unfold isVariable category
  rw [h.find?_eq hn]

end Extends

end Palette

/-! ## Analyses -/

section Analyses

variable {d : Diagram} {p p' : Palette}

/-- The palette has the types of all nodes. -/
def Diagram.IsTypedBy (d : Diagram) (p : Palette) : Prop :=
  ∀ n ∈ d.nodes, p.contains n.typeName = true

namespace Inspection

theorem reachability_of_extends (h : p.Extends p') (hd : d.IsTypedBy p) :
    reachability d p' = reachability d p := by
  have hunreached : ∀ entry, unreached d p' entry = unreached d p entry := by
    intro entry
    refine List.filter_congr fun n hn => ?_
    unfold isPureData
    rw [h.isVariable_eq (hd n hn)]
  unfold reachability
  simp only [hunreached]

theorem variableLinks_of_extends (h : p.Extends p') (hd : d.IsTypedBy p) :
    variableLinks d p' = variableLinks d p := by
  have hunusual : isUnusualLink d p' = isUnusualLink d p := by
    funext e
    unfold isUnusualLink Palette.bridged
    split
    · next source target hsource htarget =>
      rw [h.isVariable_eq (hd _ (Diagram.node?_eq_some hsource).1),
        h.isVariable_eq (hd _ (Diagram.node?_eq_some htarget).1), h.bridges]
    · rfl
  unfold variableLinks
  rw [hunusual]

end Inspection

theorem Diagram.inspect_of_extends (h : p.Extends p') (hd : d.IsTypedBy p) :
    d.inspect p' = d.inspect p := by
  unfold inspect issues
  rw [Inspection.reachability_of_extends h hd, Inspection.variableLinks_of_extends h hd]

theorem Execution.supply_of_extends (h : p.Extends p') (hd : d.IsTypedBy p) (n : Node) :
    (of d).supply p' n = (of d).supply p n := by
  have horigin : (of d).origin p' = (of d).origin p := by
    funext e
    unfold origin
    split
    · next source hsource =>
      rw [h.isVariable_eq (hd _ (Diagram.node?_eq_some hsource).1)]
    · rfl
  unfold supply
  rw [horigin]

theorem Diagram.preview_of_extends (h : p.Extends p') (hd : d.IsTypedBy p)
    (declarations : List Declaration) : d.preview p' declarations = d.preview p declarations :=
  preview_congr rfl (fun _ => rfl) (fun _ => rfl) fun _ n _ => Execution.supply_of_extends h hd n

end Analyses

/-! ## Reading -/

namespace Document

variable {p p' : Palette}

/-- The type that a node record asks for: the first of that of its description and its own that is
not vacant, and in the absence of both the type of custom nodes. -/
def AsksFor (node : Fields) (typeName : String) : Prop :=
  ∃ detail, Describes detail node ∧
    ([detail.get "type", node.get "type"].find? (!·.isVacant)).getD (.str "Custom") = .str typeName

/-- The palette has the types that the node records of a document ask for. -/
def IsTypedBy (p : Palette) (v : Value) : Prop :=
  ∀ (graph : Fields) items node typeName, v = .map graph → graph.get "nodes" = .list items →
    Value.map node ∈ items → AsksFor node typeName → p.contains typeName = true

theorem readType_of_extends (h : p.Extends p') {node stated : String}
    (hstated : p.contains stated = true) : readType p' node stated = readType p node stated := by
  unfold readType knownRole?
  rw [h.find?_eq hstated]

/-- A registered type is kept. -/
theorem readType_eq_of_contains {node stated : String} (hstated : p.contains stated = true) :
    ∃ role, readType p node stated = pure (stated, role) := by
  obtain ⟨t, ht⟩ := Option.isSome_iff_exists.mp hstated
  refine ⟨t.role, ?_⟩
  unfold readType knownRole?
  rw [ht]
  rfl

theorem readNode_of_extends (h : p.Extends p') {v : Value}
    (hv : ∀ node typeName, v = .map node → AsksFor node typeName → p.contains typeName = true)
    (k : Nat) : readNode p' k v = readNode p k v := by
  unfold readNode
  cases hmap : asMap (.nodeAt k) v with
  | error e => rw [Load.lift_error_bind, Load.lift_error_bind]
  | ok record =>
    obtain rfl := asMap_eq_ok.mp hmap
    rw [Load.lift_ok_bind, Load.lift_ok_bind]
    congr 1
    funext id
    cases hdetail : detailOf id record with
    | error e => rw [Load.lift_error_bind, Load.lift_error_bind]
    | ok detail =>
      rw [Load.lift_ok_bind, Load.lift_ok_bind]
      cases hstated : statedType id record detail with
      | error e => rw [Load.lift_error_bind, Load.lift_error_bind]
      | ok stated =>
        have hasks : AsksFor record stated := by
          refine ⟨detail, (detailOf_eq_ok.mp hdetail).symm, ?_⟩
          rw [← orElse_eq_find?]
          exact statedType_eq_ok.mp hstated
        have hknown := hv record stated rfl hasks
        have hports : portsOf p' id stated detail = portsOf p id stated detail := by
          unfold portsOf
          rw [h.find?_eq hknown]
        obtain ⟨role, hrole⟩ : ∃ role, readType p id stated = pure (stated, role) :=
          readType_eq_of_contains hknown
        rw [Load.lift_ok_bind, Load.lift_ok_bind, readType_of_extends h hknown, hrole]
        simp only [pure_bind, hports]

theorem readDiagram_of_extends (h : p.Extends p') {v : Value} (hv : IsTypedBy p v) :
    readDiagram p' v = readDiagram p v := by
  unfold readDiagram
  cases hmap : asMap .graph v with
  | error e => rw [Load.lift_error_bind, Load.lift_error_bind]
  | ok graph =>
    obtain rfl := asMap_eq_ok.mp hmap
    rw [Load.lift_ok_bind, Load.lift_ok_bind]
    cases hitems : asList .graphNodes (graph.get "nodes") with
    | error e => rw [Load.lift_error_bind, Load.lift_error_bind]
    | ok items =>
      have hread : readEach (readNode p') 0 items = readEach (readNode p) 0 items := by
        have hpairs : List.Forall₂ (fun x y => x = y ∧ y ∈ items) items items :=
          List.forall₂_same.mpr fun _ hitem => ⟨rfl, hitem⟩
        refine readEach_congr hpairs ?_ 0
        rintro _ item ⟨rfl, hitem⟩ k
        refine readNode_of_extends h ?_ k
        rintro node typeName rfl hasks
        rcases asList_eq_ok.mp hitems with ⟨-, rfl⟩ | hlist
        · simp at hitem
        · exact hv graph items node typeName rfl hlist hitem hasks
      rw [Load.lift_ok_bind, Load.lift_ok_bind, hread]

/-! ## Warnings -/

/-- Of two readings that are both refused or both not, the first one raises no warning but those of
the second, in the same order. -/
structure Load.Milder {α : Type} (x y : Load α) : Prop where
  warnings : x.warnings.Sublist y.warnings
  accepts : (∃ a, x.result = .ok a) ↔ ∃ a, y.result = .ok a

namespace Load.Milder

variable {α β : Type}

theorem refl (x : Load α) : Milder x x := ⟨.refl _, .rfl⟩

theorem pure (a b : α) : Milder (pure a : Load α) (pure b) :=
  ⟨.refl [], iff_of_true ⟨a, rfl⟩ ⟨b, rfl⟩⟩

theorem lift {x y : Except Malformed α} (h : (∃ a, x = .ok a) ↔ ∃ a, y = .ok a) :
    Milder (x : Load α) (y : Load α) :=
  ⟨.refl [], h⟩

theorem bind {x y : Load α} {f g : α → Load β} (h : Milder x y) (hfg : ∀ a b, Milder (f a) (g b)) :
    Milder (x >>= f) (y >>= g) := by
  obtain ⟨ws, r⟩ := x
  obtain ⟨ws', r'⟩ := y
  obtain ⟨hws, haccepts⟩ := h
  match r, r' with
  | .ok a, .ok b => exact ⟨hws.append (hfg a b).warnings, (hfg a b).accepts⟩
  | .error _, .error _ => exact ⟨hws, iff_of_false (by rintro ⟨_, ⟨⟩⟩) (by rintro ⟨_, ⟨⟩⟩)⟩
  | .ok a, .error _ => simp at haccepts
  | .error _, .ok a => simp at haccepts

/-- After the same first part, both go on with what it gives. -/
theorem bind_left (x : Load α) {f g : α → Load β} (hfg : ∀ a, Milder (f a) (g a)) :
    Milder (x >>= f) (x >>= g) := by
  obtain ⟨ws, r⟩ := x
  match r with
  | .ok a => exact ⟨(List.Sublist.refl ws).append (hfg a).warnings, (hfg a).accepts⟩
  | .error _ => exact .refl _

theorem readEach {read read' : Nat → α → Load β} (h : ∀ k a, Milder (read k a) (read' k a))
    (k : Nat) (xs : List α) : Milder (readEach read k xs) (readEach read' k xs) := by
  induction xs generalizing k with
  | nil => exact .refl _
  | cons a xs ih =>
    exact (h k a).bind fun _ _ => (ih (k + 1)).bind fun _ _ => .pure _ _

end Load.Milder

/-- A type that older documents know may come to be registered, but is not forgotten. -/
theorem knownRole?_of_extends (h : p.Extends p') {stated : String} {role : Role}
    (hrole : knownRole? p stated = some role) : ∃ role', knownRole? p' stated = some role' := by
  unfold knownRole? at hrole ⊢
  rcases Option.or_eq_some_iff.mp hrole with hfound | ⟨-, hcoarse⟩
  · obtain ⟨t, ht, -⟩ := Option.map_eq_some_iff.mp hfound
    exact ⟨t.role, by rw [h.find? ht]; rfl⟩
  · rw [hcoarse]
    cases (p'.find? stated).map (·.role) with
    | none => exact ⟨role, rfl⟩
    | some role' => exact ⟨role', rfl⟩

theorem readType_milder (h : p.Extends p') (node stated : String) :
    (readType p' node stated).Milder (readType p node stated) := by
  unfold readType
  cases hrole : knownRole? p stated with
  | some role =>
    obtain ⟨role', hrole'⟩ := knownRole?_of_extends h hrole
    rw [hrole']
    exact .pure _ _
  | none =>
    cases knownRole? p' stated with
    | some role' => exact ⟨List.nil_sublist _, iff_of_true ⟨_, rfl⟩ ⟨_, rfl⟩⟩
    | none => exact .refl _

theorem readNode_milder (h : p.Extends p') (k : Nat) (v : Value) :
    (readNode p' k v).Milder (readNode p k v) := by
  unfold readNode
  refine .bind_left _ fun record => .bind_left _ fun id => .bind_left _ fun detail =>
    .bind_left _ fun stated => (readType_milder h id stated).bind fun type type' => ?_
  -- other ports are read for another type, but they are read all the same
  have hports : (∃ ports, portsOf p' id type.1 detail = .ok ports) ↔
      ∃ ports, portsOf p id type'.1 detail = .ok ports :=
    portsOf_accepts.trans portsOf_accepts.symm
  exact (Load.Milder.lift hports).bind fun _ _ => .bind_left _ fun _ => .pure _ _

theorem readDiagram_milder (h : p.Extends p') (v : Value) :
    (readDiagram p' v).Milder (readDiagram p v) := by
  unfold readDiagram
  refine .bind_left _ fun graph => .bind_left _ fun items => ?_
  exact (Load.Milder.readEach (readNode_milder h) 0 items).bind fun _ _ =>
    .bind_left _ fun _ => .bind_left _ fun _ => .pure _ _

end Document

/-- **Registering types is conservative.** A diagram whose types are registered has the same findings
and the same preview as before. A document whose types are registered is read as before, with the
same warnings or the same refusal. Whatever the document, no warning is raised that was not raised
before. -/
theorem Palette.registerAll_conservative {p p' : Palette} {types : List NodeType}
    (h : p.registerAll types = .ok p') :
    (∀ d : Diagram, d.IsTypedBy p → d.inspect p' = d.inspect p ∧
      ∀ declarations, d.preview p' declarations = d.preview p declarations) ∧
    (∀ v, Document.IsTypedBy p v → Document.readDiagram p' v = Document.readDiagram p v) ∧
    ∀ v, (Document.readDiagram p' v).warnings.Sublist (Document.readDiagram p v).warnings := by
  have hext := extends_registerAll h
  refine ⟨?_, ?_, ?_⟩
  · intro d hd
    exact ⟨Diagram.inspect_of_extends hext hd, Diagram.preview_of_extends hext hd⟩
  · intro v hv
    exact Document.readDiagram_of_extends hext hv
  · intro v
    exact (Document.readDiagram_milder hext v).warnings

/-- The types are registered in part again. The nested type of the first node record counts, not its
own; the second one is malformed, so `v` is refused. -/
theorem Palette.registerAll_conservative_of_repeated :
    let getter : NodeType := { name := "Getter", role := .read, category := .memory }
    let probe : NodeType := { name := "Probe", role := .custom, category := .memory }
    let p : Palette := ⟨[getter], [], by decide⟩
    let p' : Palette := ⟨[getter, probe], [], by decide⟩
    let a : Node := { id := "a", role := .custom, typeName := "Getter" }
    let b : Node := { id := "b", role := .assign, typeName := "Getter" }
    let e : Edge := { id := "e", source := "a", target := "b", statedFlow := some .data }
    let d : Diagram := { nodes := [a, b], edges := [e] }
    let nested : Value := .map [(.str "id", .str "a"), (.str "type", .str "Ghost"),
      (.str "blueprint_node", .map [(.str "type", .str "Getter")])]
    let v : Value := .map [(.str "nodes", .list [nested, .int 7])]
    let record (id type : String) : Value := .map [(.str "id", .str id), (.str "type", .str type)]
    let w : Value := .map [(.str "nodes", .list [record "x" "Probe", record "y" "Ghost",
      record "z" "Probe", nested])]
    p.registerAll [probe, getter, probe] = .ok p' ∧ d.IsTypedBy p ∧ Document.IsTypedBy p v ∧
      d.inspect p' = d.inspect p ∧
      (∀ declarations, d.preview p' declarations = d.preview p declarations) ∧
      Document.readDiagram p' v = Document.readDiagram p v ∧
      (Document.readDiagram p' w).warnings.Sublist (Document.readDiagram p w).warnings ∧
      (Document.readDiagram p' w).warnings.length = 1 ∧
      (Document.readDiagram p w).warnings.length = 3 := by
  intro getter probe p p' a b e d nested v record w
  have h : p.registerAll [probe, getter, probe] = .ok p' := rfl
  have hd : d.IsTypedBy p := by
    unfold Diagram.IsTypedBy
    decide
  have hv : Document.IsTypedBy p v := by
    rintro graph items node typeName hgraph hitems hmem ⟨detail, hdescribes, htype⟩
    obtain rfl := Value.map.inj hgraph
    obtain rfl := Value.list.inj hitems
    rcases List.mem_cons.mp hmem with hnode | hmem
    · obtain rfl := Value.map.inj hnode
      rcases hdescribes with hnested | ⟨hnull, -⟩
      · obtain rfl := Value.map.inj hnested
        have htype : Value.str "Getter" = .str typeName := htype
        obtain rfl : "Getter" = typeName := by simpa using htype
        decide
      · exact absurd hnull nofun
    · simp at hmem
  obtain ⟨hanalyses, hread, hwarnings⟩ := registerAll_conservative h
  exact ⟨h, hd, hv, (hanalyses d hd).1, (hanalyses d hd).2, hread v hv, hwarnings w, rfl, rfl⟩

end Blueprint
