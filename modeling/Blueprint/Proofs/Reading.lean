import Mathlib.Data.List.Forall2
import Mathlib.Data.List.Nodup
import Blueprint.Document.Basic

/-!
# Proofs: reading documents

What it takes for a reader to succeed. Each reader is a sequence of steps, and it succeeds if all of
them do; the lemmas `…_eq_ok` say so for one reader after the other, with the parts of the result in
the place of those that the steps gave. Fields are looked up by their names, so of a record made of
named values (`Fields.ofNamed`) it can be said at once what is in it.
-/

namespace Blueprint

/-! ## Fields -/

namespace Fields

/-- A record of named values; a name without a value is left out. -/
def ofNamed (named : List (String × Option Value)) : Fields :=
  named.filterMap fun entry => entry.2.map fun v => (.str entry.1, v)

theorem get?_cons (key : Scalar) (v : Value) (fields : Fields) (name : String) :
    get? ((key, v) :: fields) name = if key = .str name then some v else fields.get? name := by
  unfold get?
  by_cases h : key = .str name
  · simp [h]
  · have hb : (Scalar.str name == key) = false := by simpa using Ne.symm h
    simp [List.lookup_cons, hb, h]

theorem get?_eq_none_iff {fields : Fields} {name : String} :
    fields.get? name = none ↔ .str name ∉ fields.map (·.1) := by
  unfold get?
  rw [List.lookup_eq_none_iff, List.mem_map]
  constructor
  · rintro h ⟨entry, hentry, hkey⟩
    exact bne_iff_ne.mp (h entry hentry) hkey.symm
  · intro h entry hentry
    exact bne_iff_ne.mpr fun e => h ⟨entry, hentry, e.symm⟩

/-- If no name stands twice, a name has the value that it was given. -/
theorem get?_ofNamed {named : List (String × Option Value)} (h : (named.map (·.1)).Nodup)
    (name : String) : (ofNamed named).get? name = (named.lookup name).join := by
  induction named with
  | nil => rfl
  | cons entry named ih =>
    obtain ⟨k, o⟩ := entry
    obtain ⟨hk, hnodup⟩ := List.nodup_cons.mp h
    have hrest := ih hnodup
    by_cases hname : name = k
    · subst hname
      cases o with
      | none =>
        have hnone : named.lookup name = none := by
          rw [List.lookup_eq_none_iff]
          intro x hx
          have hne : x.1 ≠ name := fun e => hk (e ▸ List.mem_map.mpr ⟨x, hx, rfl⟩)
          simpa using Ne.symm hne
        rw [hnone] at hrest
        simpa [ofNamed] using hrest
      | some v => simp [ofNamed, get?_cons]
    · have hb : (name == k) = false := by simpa using hname
      rw [List.lookup_cons, hb]
      cases o with
      | none => simpa [ofNamed] using hrest
      | some v =>
        have hk' : ¬ Scalar.str k = .str name := by simpa using Ne.symm hname
        have hcons : ofNamed ((k, some v) :: named) = (.str k, v) :: ofNamed named := rfl
        rw [hcons, get?_cons, if_neg hk']
        exact hrest

/-- The values under the keys change, the keys do not. -/
theorem get?_map (f : Scalar → Value → Value) (fields : Fields) (name : String) :
    get? (fields.map fun entry => (entry.1, f entry.1 entry.2)) name =
      (fields.get? name).map (f (.str name)) := by
  induction fields with
  | nil => rfl
  | cons entry fields ih =>
    rw [List.map_cons, get?_cons, get?_cons, ih]
    by_cases h : entry.1 = .str name
    · rw [if_pos h, if_pos h, h]
      rfl
    · rw [if_neg h, if_neg h]

theorem spelled_cons (fields : Fields) (name : String) (names : List String) :
    fields.spelled (name :: names) = (fields.get? name).getD
      ((fields.get? (Text.snakeCase name)).getD (fields.spelled names)) := by
  unfold spelled
  rw [List.flatMap_cons, List.cons_append, List.cons_append, List.nil_append, List.findSome?_cons,
    List.findSome?_cons]
  cases fields.get? name with
  | some v => rfl
  | none => cases fields.get? (Text.snakeCase name) <;> rfl

theorem get_of_get? {fields : Fields} {name : String} {v : Value} (h : fields.get? name = some v) :
    fields.get name = v := by
  rw [get, h, Option.getD_some]

theorem spelled_of_get? {fields : Fields} {name : String} {v : Value}
    (h : fields.get? name = some v) (names : List String) :
    fields.spelled (name :: names) = v := by
  rw [spelled_cons, h, Option.getD_some]

theorem spelled_nil (fields : Fields) : fields.spelled [] = .null := rfl

/-- A name that is its own snake case has one spelling. -/
theorem spelled_of_snakeCase {name : String} (h : Text.snakeCase name = name) (fields : Fields) :
    fields.spelled [name] = fields.get name := by
  rw [spelled_cons, h, spelled_nil]
  unfold get
  cases fields.get? name <;> rfl

end Fields

namespace Document

/-! ## Steps -/

theorem bind_eq_ok {ε α β : Type} {x : Except ε α} {f : α → Except ε β} {b : β} :
    (x >>= f) = .ok b ↔ ∃ a, x = .ok a ∧ f a = .ok b := by
  cases x with
  | error e =>
    constructor
    · intro h
      cases h
    · rintro ⟨_, h, -⟩
      cases h
  | ok a =>
    constructor
    · intro h
      exact ⟨a, rfl, h⟩
    · rintro ⟨_, ha, h⟩
      cases ha
      exact h

theorem pure_eq_ok {ε α : Type} {a b : α} : (pure a : Except ε α) = .ok b ↔ a = b := by
  simp [pure, Except.pure]

namespace Load

variable {α β : Type}

theorem ext_iff {x y : Load α} : x = y ↔ x.warnings = y.warnings ∧ x.result = y.result := by
  cases x
  cases y
  simp

theorem eq_ok_of_result {x : Load α} {a : α} (h : x.result = .ok a) : x = ⟨x.warnings, .ok a⟩ :=
  ext_iff.mpr ⟨rfl, h⟩

theorem bind_eq_ok {x : Load α} {f : α → Load β} {ws : List Warning} {b : β} :
    (x >>= f) = ⟨ws, .ok b⟩ ↔
      ∃ ws₁ a ws₂, x = ⟨ws₁, .ok a⟩ ∧ f a = ⟨ws₂, .ok b⟩ ∧ ws = ws₁ ++ ws₂ := by
  obtain ⟨ws₁, r⟩ := x
  cases r with
  | error e =>
    constructor
    · intro h
      cases h
    · rintro ⟨_, _, _, h, -, -⟩
      cases h
  | ok a =>
    show (⟨ws₁ ++ (f a).warnings, (f a).result⟩ : Load β) = _ ↔ _
    rw [ext_iff]
    constructor
    · rintro ⟨hw, hr⟩
      exact ⟨ws₁, a, (f a).warnings, rfl, ext_iff.mpr ⟨rfl, hr⟩, hw.symm⟩
    · rintro ⟨_, _, ws₂, h, hf, rfl⟩
      cases h
      rw [hf]
      exact ⟨rfl, rfl⟩

/-- A step that raises no warnings. -/
theorem lift_eq_ok {x : Except Malformed α} {ws : List Warning} {a : α} :
    (liftM x : Load α) = ⟨ws, .ok a⟩ ↔ ws = [] ∧ x = .ok a := by
  show (⟨[], x⟩ : Load α) = _ ↔ _
  rw [ext_iff, eq_comm]

theorem lift_bind_eq_ok {x : Except Malformed α} {f : α → Load β} {ws : List Warning} {b : β} :
    ((liftM x : Load α) >>= f) = ⟨ws, .ok b⟩ ↔ ∃ a, x = .ok a ∧ f a = ⟨ws, .ok b⟩ := by
  rw [bind_eq_ok]
  constructor
  · rintro ⟨_, a, ws, hx, hf, rfl⟩
    obtain ⟨rfl, hok⟩ := lift_eq_ok.mp hx
    exact ⟨a, hok, hf⟩
  · rintro ⟨a, hx, hf⟩
    exact ⟨[], a, ws, lift_eq_ok.mpr ⟨rfl, hx⟩, hf, rfl⟩

theorem lift_ok_bind (a : α) (f : α → Load β) :
    (liftM (Except.ok a : Except Malformed α) : Load α) >>= f = f a := rfl

theorem lift_error_bind (e : Malformed) (f : α → Load β) :
    (liftM (Except.error e : Except Malformed α) : Load α) >>= f = ⟨[], .error e⟩ := rfl

instance : LawfulMonad Load := by
  refine LawfulMonad.mk' Load ?_ ?_ ?_
  · rintro α ⟨ws, r⟩
    cases r with
    | error e => rfl
    | ok a => exact ext_iff.mpr ⟨List.append_nil ws, rfl⟩
  · intro α β a f
    rfl
  · rintro α β γ ⟨ws, r⟩ f g
    cases r with
    | error e => rfl
    | ok a =>
      show (⟨ws ++ (f a).warnings, (f a).result⟩ : Load β) >>= g = ⟨ws ++ _, _⟩
      cases h : (f a).result with
      | error e => simp [bind, Load.bind, h]
      | ok b => simp [bind, Load.bind, h]

end Load

/-! ## Lists -/

/-- Two lists are read alike if their members are, in pairs. -/
theorem readEach_congr {m : Type → Type} [Monad m] {α α' β : Type} {read : Nat → α → m β}
    {read' : Nat → α' → m β} {r : α → α' → Prop} {xs : List α} {ys : List α'}
    (hxs : List.Forall₂ r xs ys) (h : ∀ {x y}, r x y → ∀ k, read k x = read' k y) (k : Nat) :
    readEach read k xs = readEach read' k ys := by
  induction hxs generalizing k with
  | nil => rfl
  | cons hx _ ih => rw [readEach, readEach, h hx k, ih]

theorem readEach_map {m : Type → Type} [Monad m] {α β : Type} {read : Nat → α → m β} {f : α → α}
    (h : ∀ k a, read k (f a) = read k a) (k : Nat) (xs : List α) :
    readEach read k (xs.map f) = readEach read k xs := by
  have hpairs : List.Forall₂ (fun x y => x = f y) (xs.map f) xs :=
    List.forall₂_map_left_iff.mpr (List.forall₂_same.mpr fun _ _ => rfl)
  refine readEach_congr hpairs (fun {x a} hx k => ?_) k
  rw [hx, h]

/-- What each member is read as shows in what the list is read as. -/
theorem readEach_map_ok {ε α β : Type} {read : Nat → α → Except ε β} {f : α → α} {g : β → β}
    (h : ∀ k a b, read k a = .ok b → read k (f a) = .ok (g b)) {k : Nat} {xs : List α}
    {bs : List β} (hread : readEach read k xs = .ok bs) :
    readEach read k (xs.map f) = .ok (bs.map g) := by
  induction xs generalizing k bs with
  | nil =>
    cases hread
    rfl
  | cons a xs ih =>
    rw [readEach, bind_eq_ok] at hread
    obtain ⟨b, hb, hrest⟩ := hread
    obtain ⟨rest, hxs, hpure⟩ := bind_eq_ok.mp hrest
    obtain rfl := pure_eq_ok.mp hpure
    rw [List.map_cons, readEach, h k a b hb, List.map_cons]
    exact bind_eq_ok.mpr ⟨g b, rfl, bind_eq_ok.mpr ⟨rest.map g, ih hxs, rfl⟩⟩

/-- If each member of a list is read as what it was made from, the list is. -/
theorem readEach_map_eq_pure {m : Type → Type} [Monad m] [LawfulMonad m] {α β : Type}
    {read : Nat → α → m β} {f : β → α} {xs : List β}
    (h : ∀ x ∈ xs, ∀ k, read k (f x) = pure x) (k : Nat) :
    readEach read k (xs.map f) = pure xs := by
  induction xs generalizing k with
  | nil => rfl
  | cons x xs ih =>
    have hx : read k (f x) = pure x := h x (List.mem_cons_self ..) k
    have hxs : readEach read (k + 1) (xs.map f) = pure xs :=
      ih (fun y hy => h y (List.mem_cons_of_mem _ hy)) (k + 1)
    rw [List.map_cons, readEach, hx, pure_bind, hxs, pure_bind]

/-! ## Records -/

theorem asMap_eq_ok {place : Place} {v : Value} {fields : Fields} :
    asMap place v = .ok fields ↔ v = .map fields := by
  cases v <;> simp [asMap]

theorem asList_eq_ok {place : Place} {v : Value} {items : List Value} :
    asList place v = .ok items ↔ v = .null ∧ items = [] ∨ v = .list items := by
  unfold asList
  split
  · simp [eq_comm]
  · simp
  · next hnull hlist =>
    constructor
    · intro h
      cases h
    · rintro (⟨h, -⟩ | h)
      · exact absurd h hnull
      · exact absurd h (hlist items)

theorem requireId_eq_ok {place : Place} {record : Fields} {id : String} :
    requireId place record = .ok id ↔ record.get "id" = .str id ∧ id ≠ "" := by
  unfold requireId
  split
  · next s hs =>
    rw [hs, Value.scalar.injEq, Scalar.str.injEq]
    by_cases hempty : s = ""
    · simp [hempty]
    · have hne : ¬ s.isEmpty = true := by simpa using hempty
      rw [if_neg hne, Except.ok.injEq]
      constructor
      · rintro rfl
        exact ⟨rfl, hempty⟩
      · exact fun h => h.1
  · next hne =>
    constructor
    · intro h
      cases h
    · exact fun h => absurd h.1 (hne id)

theorem optionalText_eq_ok {place : Place} {key : String} {v : Value} {o : Option String} :
    optionalText place key v = .ok o ↔ v = (o.map Value.str).getD .null := by
  cases o with
  | none =>
    unfold optionalText
    split <;> simp_all
  | some s =>
    unfold optionalText
    split <;> simp_all

theorem optionalFlow_eq_ok {place : Place} {v : Value} {o : Option Flow} :
    optionalFlow place v = .ok o ↔ v = .null ∧ o = none ∨
      ∃ s flow, v = .str s ∧ Flow.ofText? s = some flow ∧ o = some flow := by
  unfold optionalFlow
  split
  · simp [eq_comm]
  · next s =>
    cases hs : Flow.ofText? s with
    | none => simp [hs]
    | some flow => simp [hs, eq_comm]
  · simp_all

theorem requireId_congr {fields fields' : Fields} (h : fields.get? "id" = fields'.get? "id")
    (place : Place) : requireId place fields = requireId place fields' := by
  unfold requireId Fields.get
  rw [h]

/-! ## Nodes -/

theorem readPort_eq_ok {node : String} {side : Side} {k : Nat} {record : Fields} {port : Port} :
    readPort node side k (.map record) = .ok port ↔
      DataType.read (record.spelled ["dataType", "dataKind"]) = port.dataType ∧
      optionalText (.port node k) "variableId" (record.spelled ["variableId"]) =
        .ok port.variableId ∧
      requireId (.port node k) record = .ok port.id ∧ side = port.side := by
  unfold readPort
  constructor
  · intro h
    obtain ⟨_, hmap, h⟩ := bind_eq_ok.mp h
    obtain rfl := Value.map.inj (asMap_eq_ok.mp hmap)
    obtain ⟨variableId, hvariable, h⟩ := bind_eq_ok.mp h
    obtain ⟨id, hid, h⟩ := bind_eq_ok.mp h
    obtain rfl := pure_eq_ok.mp h
    exact ⟨rfl, hvariable, hid, rfl⟩
  · rintro ⟨hdataType, hvariable, hid, rfl⟩
    refine bind_eq_ok.mpr ⟨record, rfl, bind_eq_ok.mpr ⟨port.variableId, hvariable, ?_⟩⟩
    refine bind_eq_ok.mpr ⟨port.id, hid, ?_⟩
    rw [hdataType]
    rfl

theorem readSettings_eq_ok {node : String} {v : Value} {settings : Settings} :
    readSettings node v = .ok settings ↔ v = .null ∧ settings = .empty ∨
      ∃ fields : Fields, v = .map fields ∧ settings = settingsOfFields fields := by
  unfold readSettings
  split
  · simp [eq_comm]
  · next hnull =>
    constructor
    · intro h
      obtain ⟨fields, hmap, h⟩ := bind_eq_ok.mp h
      exact Or.inr ⟨fields, asMap_eq_ok.mp hmap, (pure_eq_ok.mp h).symm⟩
    · rintro (⟨h, -⟩ | ⟨fields, rfl, rfl⟩)
      · exact absurd h hnull
      · rfl

theorem detailOf_eq_ok {node : String} {record detail : Fields} :
    detailOf node record = .ok detail ↔
      record.spelled ["blueprintNode"] = .null ∧ detail = record ∨
      record.spelled ["blueprintNode"] = .map detail := by
  unfold detailOf
  split
  · next h => simp [h, eq_comm]
  · next hnull =>
    rw [asMap_eq_ok]
    constructor
    · exact Or.inr
    · rintro (⟨h, -⟩ | h)
      · exact absurd h hnull
      · exact h

theorem statedType_eq_ok {node : String} {record detail : Fields} {stated : String} :
    statedType node record detail = .ok stated ↔
      ((detail.get "type").orElse (record.get "type")).orElse (.str "Custom") = .str stated := by
  unfold statedType
  rw [Fields.spelled_of_snakeCase (by decide)]
  split
  · next s hs => simp [hs]
  · next hne =>
    constructor
    · intro h
      cases h
    · exact fun h => absurd h (hne stated)

theorem readNode_eq_ok {p : Palette} {k : Nat} {record : Fields} {ws : List Warning} {n : Node} :
    readNode p k (.map record) = ⟨ws, .ok n⟩ ↔
      requireId (.nodeAt k) record = .ok n.id ∧
      ∃ (detail : Fields) (stated : String), detailOf n.id record = .ok detail ∧
        statedType n.id record detail = .ok stated ∧
        readType p n.id stated = ⟨ws, .ok (n.typeName, n.role)⟩ ∧
        portsOf p n.id n.typeName detail = .ok (n.inputs, n.outputs) ∧
        readSettings n.id (settingsValue record detail) = .ok n.settings ∧
        labelOf record detail = n.label := by
  unfold readNode
  rw [asMap, Load.lift_ok_bind]
  constructor
  · intro h
    obtain ⟨id, hid, h⟩ := Load.lift_bind_eq_ok.mp h
    obtain ⟨detail, hdetail, h⟩ := Load.lift_bind_eq_ok.mp h
    obtain ⟨stated, hstated, h⟩ := Load.lift_bind_eq_ok.mp h
    obtain ⟨ws, ⟨typeName, role⟩, _, htype, hrest, rfl⟩ := Load.bind_eq_ok.mp h
    obtain ⟨⟨inputs, outputs⟩, hports, h⟩ := Load.lift_bind_eq_ok.mp hrest
    obtain ⟨settings, hsettings, h⟩ := Load.lift_bind_eq_ok.mp h
    cases h
    rw [List.append_nil]
    exact ⟨hid, detail, stated, hdetail, hstated, htype, hports, hsettings, rfl⟩
  · rintro ⟨hid, detail, stated, hdetail, hstated, htype, hports, hsettings, hlabel⟩
    refine Load.lift_bind_eq_ok.mpr ⟨n.id, hid, Load.lift_bind_eq_ok.mpr ⟨detail, hdetail, ?_⟩⟩
    refine Load.lift_bind_eq_ok.mpr ⟨stated, hstated, ?_⟩
    refine Load.bind_eq_ok.mpr ⟨ws, (n.typeName, n.role), [], htype, ?_, (List.append_nil ws).symm⟩
    refine Load.lift_bind_eq_ok.mpr ⟨(n.inputs, n.outputs), hports, ?_⟩
    refine Load.lift_bind_eq_ok.mpr ⟨n.settings, hsettings, ?_⟩
    rw [hlabel]
    rfl

/-! ## Edges -/

theorem readLink_eq_ok {place : Place} {id : String} {source target : Value} {ends : Fault}
    {record : Fields} {link : Link} :
    readLink place id source target ends record = .ok link ↔
      source = .str link.source ∧ target = .str link.target ∧
      optionalText place "sourcePort" (record.spelled ["sourcePort"]) = .ok link.sourcePort ∧
      optionalText place "targetPort" (record.spelled ["targetPort"]) = .ok link.targetPort ∧
      optionalFlow place (record.get "kind") = .ok link.statedFlow ∧ id = link.id := by
  unfold readLink
  constructor
  · intro h
    split at h
    · obtain ⟨sourcePort, hs, h⟩ := bind_eq_ok.mp h
      obtain ⟨targetPort, ht, h⟩ := bind_eq_ok.mp h
      obtain ⟨flow, hf, h⟩ := bind_eq_ok.mp h
      obtain rfl := pure_eq_ok.mp h
      exact ⟨rfl, rfl, hs, ht, hf, rfl⟩
    · cases h
  · rintro ⟨rfl, rfl, hs, ht, hf, rfl⟩
    simp only [hs, ht, hf]
    rfl

theorem snapshotOf_eq_ok {edge : String} {record : Fields} {snapshot : Option Link} :
    snapshotOf edge record = .ok snapshot ↔
      record.spelled ["blueprintEdge"] = .null ∧ snapshot = none ∨
      ∃ (nested : Fields) (link : Link), record.spelled ["blueprintEdge"] = .map nested ∧
        snapshot = some link ∧ readLink (.edge edge) ((nested.get? "id").getD (.str "")).plain
          (sourceOf nested) (targetOf nested) .nestedEndsMissing nested = .ok link := by
  unfold snapshotOf
  constructor
  · intro h
    split at h
    · next hnone =>
      cases h
      exact Or.inl ⟨hnone, rfl⟩
    · obtain ⟨link, hlink, hpure⟩ := bind_eq_ok.mp h
      obtain rfl := pure_eq_ok.mp hpure
      obtain ⟨nested, hmap, hread⟩ := bind_eq_ok.mp hlink
      exact Or.inr ⟨nested, link, asMap_eq_ok.mp hmap, rfl, hread⟩
  · rintro (⟨hnone, rfl⟩ | ⟨nested, link, hmap, rfl, hread⟩)
    · rw [hnone]
    · rw [hmap]
      exact bind_eq_ok.mpr ⟨link, bind_eq_ok.mpr ⟨nested, rfl, hread⟩, rfl⟩

theorem endOr_none (stated : Value) : endOr stated none = stated := by
  unfold endOr
  split
  · next h => cases h
  · rfl

theorem readEdge_eq_ok {k : Nat} {record : Fields} {e : Edge} :
    readEdge k (.map record) = .ok e ↔
      requireId (.edgeAt k) record = .ok e.id ∧ snapshotOf e.id record = .ok e.snapshot ∧
      readLink (.edge e.id) e.id (endOr (sourceOf record) (e.snapshot.map (·.source)))
        (endOr (targetOf record) (e.snapshot.map (·.target))) .endsMissing record =
          .ok e.toLink := by
  unfold readEdge
  constructor
  · intro h
    obtain ⟨_, hmap, h⟩ := bind_eq_ok.mp h
    obtain rfl := Value.map.inj (asMap_eq_ok.mp hmap)
    obtain ⟨id, hid, h⟩ := bind_eq_ok.mp h
    obtain ⟨snapshot, hsnapshot, h⟩ := bind_eq_ok.mp h
    obtain ⟨link, hlink, h⟩ := bind_eq_ok.mp h
    obtain rfl := pure_eq_ok.mp h
    obtain rfl : id = link.id := (readLink_eq_ok.mp hlink).2.2.2.2.2
    exact ⟨hid, hsnapshot, hlink⟩
  · rintro ⟨hid, hsnapshot, hlink⟩
    refine bind_eq_ok.mpr ⟨record, rfl, bind_eq_ok.mpr ⟨e.id, hid, ?_⟩⟩
    refine bind_eq_ok.mpr ⟨e.snapshot, hsnapshot, bind_eq_ok.mpr ⟨e.toLink, hlink, rfl⟩⟩

/-! ## Diagrams -/

theorem readDiagram_eq_ok {p : Palette} {v : Value} {ws : List Warning} {d : Diagram} :
    readDiagram p v = ⟨ws, .ok d⟩ ↔
      ∃ (record : Fields) (nodeItems edgeItems : List Value), v = .map record ∧
      asList .graphNodes (record.get "nodes") = .ok nodeItems ∧
      readEach (readNode p) 0 nodeItems = ⟨ws, .ok d.nodes⟩ ∧
      asList .graphEdges (record.get "edges") = .ok edgeItems ∧
      readEach readEdge 0 edgeItems = .ok d.edges := by
  unfold readDiagram
  constructor
  · intro h
    obtain ⟨record, hmap, h⟩ := Load.lift_bind_eq_ok.mp h
    obtain ⟨nodeItems, hnodeItems, h⟩ := Load.lift_bind_eq_ok.mp h
    obtain ⟨ws, nodes, _, hnodes, hrest, rfl⟩ := Load.bind_eq_ok.mp h
    obtain ⟨edgeItems, hedgeItems, h⟩ := Load.lift_bind_eq_ok.mp hrest
    obtain ⟨edges, hedges, h⟩ := Load.lift_bind_eq_ok.mp h
    cases h
    rw [List.append_nil]
    exact ⟨record, nodeItems, edgeItems, asMap_eq_ok.mp hmap, hnodeItems, hnodes, hedgeItems, hedges⟩
  · rintro ⟨record, nodeItems, edgeItems, rfl, hnodeItems, hnodes, hedgeItems, hedges⟩
    refine Load.lift_bind_eq_ok.mpr ⟨record, rfl, ?_⟩
    refine Load.lift_bind_eq_ok.mpr ⟨nodeItems, hnodeItems, ?_⟩
    refine Load.bind_eq_ok.mpr ⟨ws, d.nodes, [], hnodes, ?_, (List.append_nil ws).symm⟩
    refine Load.lift_bind_eq_ok.mpr ⟨edgeItems, hedgeItems, ?_⟩
    exact Load.lift_bind_eq_ok.mpr ⟨d.edges, hedges, rfl⟩

end Document

end Blueprint
