import Blueprint.Proofs.Reading
import Blueprint.Proofs.SnakeCase

/-!
# Proofs: the two spellings of keys

Some keys of a record in camel case, some in snake case: it makes no difference to what is read, to
the warnings or to the refusal. There are two reasons for this. The known keys of a record are asked
for in both spellings, one after the other, so a key that changes from one to the other is found in
the same turn, as long as it does not meet the other spelling there. The keys of settings are all
brought into snake case, where a key that is in snake case already stays as it is.

`Respelled` says which records differ in the spelling of keys only. A map has each key once, so
occurrences of keys in it are picked by listing the keys. What is read of two such records is
compared field by field (`spelled_related`, `get_related`).
-/

namespace Blueprint

/-- A key in snake case, the form in which settings are named. -/
def Scalar.snakeCase (key : Scalar) : Scalar := .str (Text.snakeCase key.plain)

theorem Scalar.snakeCase_str (s : String) : (Scalar.str s).snakeCase = .str (Text.snakeCase s) := rfl

namespace Document

/-! ## Respelled documents -/

/-- The keys of records that have two spellings. -/
def camelKeys : List String :=
  ["blueprintNode", "customLabel", "blueprintEdge", "sourceNode", "targetNode", "sourcePort",
   "targetPort", "dataType", "dataKind", "variableId", "defaultValue"]

/-- The keys of records that have one spelling. -/
def plainKeys : List String :=
  ["id", "type", "inputs", "outputs", "label", "properties", "kind", "source", "target", "nodes",
   "edges", "name"]

def IsCamelKey (key : Scalar) : Prop := ∃ name ∈ camelKeys, key = .str name

/-- The chosen keys in snake case, the others as they are. -/
def respell (chosen : List Scalar) (key : Scalar) : Scalar :=
  if key ∈ chosen then key.snakeCase else key

/-- The record `b` is the record `a` with the chosen keys in snake case, each in its place. What
stands under a key may differ, too, as `part` says for that key. -/
structure RespelledBy (chosen : List Scalar) (may : Scalar → Prop)
    (part : Scalar → Value → Value → Prop) (a b : Fields) : Prop where
  allowed : ∀ key ∈ chosen, may key
  /-- No chosen key meets its other spelling. -/
  free : ∀ key ∈ chosen, key.snakeCase ∉ a.map (·.1)
  distinct : ∀ key ∈ chosen, ∀ key' ∈ chosen, key.snakeCase = key'.snakeCase → key = key'
  entries : List.Forall₂ (fun x y => y.1 = respell chosen x.1 ∧ part x.1 x.2 y.2) a b

def Respelled (may : Scalar → Prop) (part : Scalar → Value → Value → Prop) (a b : Fields) : Prop :=
  ∃ chosen, RespelledBy chosen may part a b

/-- Records may differ as `r` says, and other values not at all. -/
inductive OnRecord (r : Fields → Fields → Prop) : Value → Value → Prop where
  | same (v : Value) : OnRecord r v v
  | record {a b : Fields} (h : r a b) : OnRecord r (.map a) (.map b)

/-- The items of lists may differ as `r` says, and other values not at all. -/
inductive OnItems (r : Value → Value → Prop) : Value → Value → Prop where
  | same (v : Value) : OnItems r v v
  | items {xs ys : List Value} (h : List.Forall₂ r xs ys) : OnItems r (.list xs) (.list ys)

/-- The records of ports and of variables, and those nested in edges, have no records in them. -/
def FlatRespelled : Value → Value → Prop := OnRecord (Respelled IsCamelKey fun _ => Eq)

/-- In settings any key may be respelled, and no value. -/
def SettingsRespelled : Value → Value → Prop := OnRecord (Respelled (fun _ => True) fun _ => Eq)

def detailPart (key : Scalar) : Value → Value → Prop :=
  if key = .str "inputs" ∨ key = .str "outputs" then OnItems FlatRespelled
  else if key = .str "properties" then SettingsRespelled
  else Eq

def DetailRespelled : Value → Value → Prop := OnRecord (Respelled IsCamelKey detailPart)

def nodePart (key : Scalar) : Value → Value → Prop :=
  if key = .str "blueprintNode" ∨ key = .str "blueprint_node" then DetailRespelled
  else detailPart key

def NodeRespelled : Value → Value → Prop := OnRecord (Respelled IsCamelKey nodePart)

def edgePart (key : Scalar) : Value → Value → Prop :=
  if key = .str "blueprintEdge" ∨ key = .str "blueprint_edge" then FlatRespelled else Eq

def EdgeRespelled : Value → Value → Prop := OnRecord (Respelled IsCamelKey edgePart)

def graphPart (key : Scalar) : Value → Value → Prop :=
  if key = .str "nodes" then OnItems NodeRespelled
  else if key = .str "edges" then OnItems EdgeRespelled
  else Eq

/-- Two documents that differ in the spelling of keys only. -/
def DocumentRespelled : Value → Value → Prop := OnRecord (Respelled IsCamelKey graphPart)

/-- Two lists of declared variables that differ in the spelling of keys only. -/
def DeclarationsRespelled : Value → Value → Prop := OnItems FlatRespelled

theorem OnRecord.congr {γ : Type} {r : Fields → Fields → Prop} {read : Value → γ} {v w : Value}
    (h : OnRecord r v w) (hread : ∀ a b, r a b → read (.map a) = read (.map b)) :
    read v = read w := by
  cases h with
  | same => rfl
  | record hab => exact hread _ _ hab

theorem OnItems.congr {γ : Type} {r : Value → Value → Prop} {read : Value → γ} {v w : Value}
    (h : OnItems r v w) (hread : ∀ xs ys, List.Forall₂ r xs ys → read (.list xs) = read (.list ys)) :
    read v = read w := by
  cases h with
  | same => rfl
  | items hxs => exact hread _ _ hxs

theorem ok_bind {ε α β : Type} (a : α) (f : α → Except ε β) : (Except.ok a >>= f) = f a := rfl

/-! ## Looking up a key -/

section Rel

variable {R S : Value → Value → Prop} {x x' y y' : Option Value}

theorem rel_imp (h : ∀ v w, R v w → S v w) (hx : Option.Rel R x x') : Option.Rel S x x' := by
  cases hx with
  | none => exact .none
  | some hvw => exact .some (h _ _ hvw)

theorem rel_or (hx : Option.Rel R x x') (hy : Option.Rel R y y') :
    Option.Rel R (x.or y) (x'.or y') := by
  cases hx with
  | none => exact hy
  | some hvw => exact .some hvw

theorem eq_of_rel (hx : Option.Rel Eq x x') : x = x' := by
  cases hx with
  | none => rfl
  | some hvw => rw [hvw]

theorem rel_getD {v w : Value} (hx : Option.Rel R x x') (hvw : R v w) :
    R (x.getD v) (x'.getD w) := by
  cases hx with
  | none => exact hvw
  | some h => exact h

end Rel

/-- The camel case spelling is no snake case spelling, of the same key or another one. -/
theorem camelKeys_notMem_snakeCase :
    ∀ name ∈ camelKeys, name ∉ camelKeys.map Text.snakeCase := by
  decide

theorem plainKeys_notMem :
    ∀ name ∈ plainKeys, name ∉ camelKeys ∧ name ∉ camelKeys.map Text.snakeCase := by
  decide

theorem camelKeys_injective : ∀ name ∈ camelKeys, ∀ name' ∈ camelKeys,
    Text.snakeCase name = Text.snakeCase name' → name = name' := by
  decide

/-- The value under a key in the first of its two spellings that is there. -/
def either (fields : Fields) (name : String) : Option Value :=
  (fields.get? name).or (fields.get? (Text.snakeCase name))

theorem spelled_eq_either (fields : Fields) (name : String) (names : List String) :
    fields.spelled (name :: names) = (either fields name).getD (fields.spelled names) := by
  rw [Fields.spelled_cons, either]
  cases fields.get? name <;> rfl

/-- Where the keys of a record change, a name is looked up under the key that it comes from. -/
theorem get?_related {f : Scalar → Scalar} {part : Scalar → Value → Value → Prop} {a b : Fields}
    (h : List.Forall₂ (fun x y => y.1 = f x.1 ∧ part x.1 x.2 y.2) a b) {name name' : String}
    (hkey : ∀ key ∈ a.map (·.1), f key = .str name' ↔ key = .str name) :
    Option.Rel (part (.str name)) (a.get? name) (b.get? name') := by
  induction h with
  | nil => exact .none
  | @cons x y a b hxy _ ih =>
    obtain ⟨k, v⟩ := x
    obtain ⟨k', w⟩ := y
    obtain ⟨rfl, hvw⟩ := hxy
    obtain ⟨hx, hrest⟩ := List.forall_mem_cons.mp hkey
    rw [Fields.get?_cons, Fields.get?_cons]
    by_cases hk : k = .str name
    · rw [if_pos hk, if_pos (hx.mpr hk)]
      exact .some (hk ▸ hvw)
    · rw [if_neg hk, if_neg fun e => hk (hx.mp e)]
      exact ih hrest

theorem respell_of_mem {chosen : List Scalar} {key : Scalar} (h : key ∈ chosen) :
    respell chosen key = key.snakeCase := if_pos h

theorem respell_of_notMem {chosen : List Scalar} {key : Scalar} (h : key ∉ chosen) :
    respell chosen key = key := if_neg h

namespace RespelledBy

variable {chosen : List Scalar} {part : Scalar → Value → Value → Prop} {a b : Fields}
  {name : String}

/-- A name that is no spelling of a chosen key is looked up as before. -/
theorem get?_of_unchosen {may : Scalar → Prop} (h : RespelledBy chosen may part a b)
    (hname : ∀ key ∈ chosen, key ≠ .str name ∧ key.snakeCase ≠ .str name) :
    Option.Rel (part (.str name)) (a.get? name) (b.get? name) := by
  refine get?_related h.entries fun key _ => ?_
  by_cases hkey : key ∈ chosen
  · obtain ⟨hne, hsnake⟩ := hname key hkey
    rw [respell_of_mem hkey]
    exact iff_of_false hsnake hne
  · rw [respell_of_notMem hkey]

/-- A name that is a chosen key stands under its other spelling, where nothing stood before. -/
theorem get?_of_chosen {may : Scalar → Prop} (h : RespelledBy chosen may part a b)
    (hchosen : .str name ∈ chosen) :
    a.get? (Text.snakeCase name) = none ∧
      Option.Rel (part (.str name)) (a.get? name) (b.get? (Text.snakeCase name)) := by
  have hfree := h.free _ hchosen
  rw [Scalar.snakeCase_str] at hfree
  refine ⟨Fields.get?_eq_none_iff.mpr hfree, get?_related h.entries fun key hkey => ?_⟩
  constructor
  · intro e
    by_cases hmem : key ∈ chosen
    · rw [respell_of_mem hmem, ← Scalar.snakeCase_str] at e
      exact h.distinct key hmem _ hchosen e
    · rw [respell_of_notMem hmem] at e
      exact absurd (e ▸ hkey) hfree
  · rintro rfl
    rw [respell_of_mem hchosen, Scalar.snakeCase_str]

theorem get?_of_plain (h : RespelledBy chosen IsCamelKey part a b) (hname : name ∈ plainKeys) :
    Option.Rel (part (.str name)) (a.get? name) (b.get? name) := by
  obtain ⟨hcamel, hsnake⟩ := plainKeys_notMem name hname
  refine h.get?_of_unchosen fun key hkey => ?_
  obtain ⟨camel, hmem, rfl⟩ := h.allowed key hkey
  rw [Scalar.snakeCase_str]
  constructor
  · rintro ⟨⟩
    exact hcamel hmem
  · intro e
    exact hsnake (Scalar.str.inj e ▸ List.mem_map_of_mem hmem)

theorem keys {may : Scalar → Prop} (h : RespelledBy chosen may part a b) :
    b.map (·.1) = (a.map (·.1)).map (respell chosen) := by
  have hentries := h.entries
  clear h
  induction hentries with
  | nil => rfl
  | cons hxy _ ih => rw [List.map_cons, List.map_cons, List.map_cons, hxy.1, ih]

/-- A key with two spellings is found in one of them, in either record. -/
theorem either_of_camel (h : RespelledBy chosen IsCamelKey part a b) (hname : name ∈ camelKeys) :
    Option.Rel (fun v w => part (.str name) v w ∨ part (.str (Text.snakeCase name)) v w)
      (either a name) (either b name) := by
  have hnot : ∀ camel ∈ camelKeys, Text.snakeCase camel ≠ name := fun camel hcamel e =>
    camelKeys_notMem_snakeCase name hname (e ▸ List.mem_map_of_mem hcamel)
  unfold either
  by_cases hchosen : Scalar.str name ∈ chosen
  · obtain ⟨hnone, hfound⟩ := h.get?_of_chosen hchosen
    have hgone : b.get? name = none := by
      rw [Fields.get?_eq_none_iff, h.keys, List.mem_map]
      rintro ⟨key, -, hkey⟩
      by_cases hmem : key ∈ chosen
      · obtain ⟨camel, hcamel, rfl⟩ := h.allowed key hmem
        rw [respell_of_mem hmem, Scalar.snakeCase_str] at hkey
        exact hnot camel hcamel (Scalar.str.inj hkey)
      · rw [respell_of_notMem hmem] at hkey
        exact hmem (hkey ▸ hchosen)
    rw [hnone, hgone, Option.or_none, Option.none_or]
    exact rel_imp (fun _ _ => Or.inl) hfound
  · refine rel_or (rel_imp (fun _ _ => Or.inl) (h.get?_of_unchosen fun key hkey => ?_))
      (rel_imp (fun _ _ => Or.inr) (h.get?_of_unchosen fun key hkey => ?_))
    · obtain ⟨camel, hcamel, rfl⟩ := h.allowed key hkey
      rw [Scalar.snakeCase_str]
      exact ⟨fun e => hchosen (e ▸ hkey), fun e => hnot camel hcamel (Scalar.str.inj e)⟩
    · obtain ⟨camel, hcamel, rfl⟩ := h.allowed key hkey
      rw [Scalar.snakeCase_str]
      constructor
      · intro e
        apply camelKeys_notMem_snakeCase camel hcamel
        rw [Scalar.str.inj e]
        exact List.mem_map_of_mem hname
      · intro e
        obtain rfl := camelKeys_injective camel hcamel name hname (Scalar.str.inj e)
        exact hchosen hkey

end RespelledBy

namespace Respelled

variable {part : Scalar → Value → Value → Prop} {a b : Fields} {name snake : String}

theorem get?_related (h : Respelled IsCamelKey part a b) (hname : name ∈ plainKeys) :
    Option.Rel (part (.str name)) (a.get? name) (b.get? name) := by
  obtain ⟨chosen, h⟩ := h
  exact h.get?_of_plain hname

theorem get?_eq (h : Respelled IsCamelKey part a b) (hname : name ∈ plainKeys)
    (hpart : part (.str name) = Eq) : a.get? name = b.get? name :=
  eq_of_rel (hpart ▸ h.get?_related hname)

theorem get_eq (h : Respelled IsCamelKey part a b) (hname : name ∈ plainKeys)
    (hpart : part (.str name) = Eq) : a.get name = b.get name := by
  unfold Fields.get
  rw [h.get?_eq hname hpart]

theorem get_related (h : Respelled IsCamelKey part a b) (hname : name ∈ plainKeys)
    {R : Value → Value → Prop} (hpart : part (.str name) = R) (hnull : R .null .null) :
    R (a.get name) (b.get name) :=
  rel_getD (hpart ▸ h.get?_related hname) hnull

/-- What may stand under a key in the one spelling may stand there in the other. -/
theorem either_related (h : Respelled IsCamelKey part a b) (hname : name ∈ camelKeys)
    (hsnake : Text.snakeCase name = snake) {R : Value → Value → Prop}
    (hpart : part (.str name) = R ∧ part (.str snake) = R) :
    Option.Rel R (either a name) (either b name) := by
  obtain ⟨chosen, h⟩ := h
  refine rel_imp (fun v w hvw => ?_) (h.either_of_camel hname)
  rwa [hsnake, hpart.1, hpart.2, or_self] at hvw

theorem spelled_related (h : Respelled IsCamelKey part a b) (hname : name ∈ camelKeys)
    (hsnake : Text.snakeCase name = snake) {R : Value → Value → Prop}
    (hpart : part (.str name) = R ∧ part (.str snake) = R) {names : List String}
    (hrest : R (a.spelled names) (b.spelled names)) :
    R (a.spelled (name :: names)) (b.spelled (name :: names)) := by
  rw [spelled_eq_either, spelled_eq_either]
  exact rel_getD (h.either_related hname hsnake hpart) hrest

theorem requireId_eq (h : Respelled IsCamelKey part a b) (hpart : part (.str "id") = Eq)
    (place : Place) : requireId place a = requireId place b :=
  requireId_congr (h.get?_eq (by decide) hpart) place

end Respelled

/-! ## Nodes -/

theorem readPort_respelled {node : String} {side : Side} {v w : Value} (h : FlatRespelled v w)
    (k : Nat) : readPort node side k v = readPort node side k w := by
  refine h.congr fun a b hab => ?_
  have hdataType : a.spelled ["dataType", "dataKind"] = b.spelled ["dataType", "dataKind"] :=
    hab.spelled_related (by decide) rfl ⟨rfl, rfl⟩
      (hab.spelled_related (by decide) rfl ⟨rfl, rfl⟩ rfl)
  have hvariable : a.spelled ["variableId"] = b.spelled ["variableId"] :=
    hab.spelled_related (by decide) rfl ⟨rfl, rfl⟩ rfl
  unfold readPort
  simp only [asMap, ok_bind, hdataType, hvariable, hab.requireId_eq rfl]

theorem readPorts_respelled {node : String} {side : Side} {v w : Value}
    (h : OnItems FlatRespelled v w) : readPorts node side v = readPorts node side w := by
  refine h.congr fun xs ys hxs => ?_
  show readEach (readPort node side) 0 xs = readEach (readPort node side) 0 ys
  exact readEach_congr hxs readPort_respelled 0

/-- Settings are named in snake case, whatever the spelling they had. -/
theorem settingsOfFields_respelled {a b : Fields}
    (h : Respelled (fun _ => True) (fun _ => Eq) a b) : settingsOfFields a = settingsOfFields b := by
  obtain ⟨chosen, h⟩ := h
  have hentries : a.map (fun entry => (Text.snakeCase entry.1.plain, entry.2)) =
      b.map fun entry => (Text.snakeCase entry.1.plain, entry.2) := by
    have hentries := h.entries
    clear h
    induction hentries with
    | nil => rfl
    | @cons x y _ _ hxy _ ih =>
      have hkey : Text.snakeCase x.1.plain = Text.snakeCase y.1.plain := by
        rw [hxy.1]
        by_cases hmem : x.1 ∈ chosen
        · rw [respell_of_mem hmem]
          exact (Text.snakeCase_snakeCase x.1.plain).symm
        · rw [respell_of_notMem hmem]
      rw [List.map_cons, List.map_cons, ih, hkey, hxy.2]
  unfold settingsOfFields
  rw [hentries]

theorem readSettings_respelled {node : String} {v w : Value} (h : SettingsRespelled v w) :
    readSettings node v = readSettings node w := by
  refine h.congr fun a b hab => ?_
  show Except.ok (settingsOfFields a) = Except.ok (settingsOfFields b)
  rw [settingsOfFields_respelled hab]

/-- Two records of which a node is described in the same way. -/
structure DescribeAlike (a b : Fields) : Prop where
  type : a.get "type" = b.get "type"
  inputs : Option.Rel (OnItems FlatRespelled) (a.get? "inputs") (b.get? "inputs")
  outputs : Option.Rel (OnItems FlatRespelled) (a.get? "outputs") (b.get? "outputs")
  customLabel : a.spelled ["customLabel"] = b.spelled ["customLabel"]
  label : a.get "label" = b.get "label"
  properties : SettingsRespelled (a.get "properties") (b.get "properties")

theorem DescribeAlike.refl (a : Fields) : DescribeAlike a a := by
  have hrel : ∀ o : Option Value, Option.Rel (OnItems FlatRespelled) o o := by
    intro o
    cases o with
    | none => exact .none
    | some v => exact .some (.same v)
  exact ⟨rfl, hrel _, hrel _, rfl, rfl, .same _⟩

/-- The record of a node describes it alike in both spellings, and so does one nested in it. -/
theorem Respelled.describeAlike {part : Scalar → Value → Value → Prop} {a b : Fields}
    (h : Respelled IsCamelKey part a b)
    (hpart : ∀ name ∈ ["type", "inputs", "outputs", "customLabel", "custom_label", "label",
      "properties"], part (.str name) = detailPart (.str name)) : DescribeAlike a b := by
  have hinputs : Option.Rel (part (.str "inputs")) (a.get? "inputs") (b.get? "inputs") :=
    h.get?_related (by decide)
  have houtputs : Option.Rel (part (.str "outputs")) (a.get? "outputs") (b.get? "outputs") :=
    h.get?_related (by decide)
  rw [hpart _ (by decide)] at hinputs houtputs
  exact
    { type := h.get_eq (by decide) (hpart "type" (by decide))
      inputs := hinputs
      outputs := houtputs
      customLabel := h.spelled_related (by decide) rfl
        ⟨hpart "customLabel" (by decide), hpart "custom_label" (by decide)⟩ rfl
      label := h.get_eq (by decide) (hpart "label" (by decide))
      properties := h.get_related (by decide) (hpart "properties" (by decide)) (.same _) }

section Node

variable {record record' detail detail' : Fields} {node : String}

theorem statedType_alike (hrecord : DescribeAlike record record')
    (hdetail : DescribeAlike detail detail') :
    statedType node record detail = statedType node record' detail' := by
  unfold statedType
  rw [Fields.spelled_of_snakeCase (by decide), Fields.spelled_of_snakeCase (by decide),
    hdetail.type, hrecord.type]

theorem portsOf_alike (h : DescribeAlike detail detail') (p : Palette) (typeName : String) :
    portsOf p node typeName detail = portsOf p node typeName detail' := by
  have hhas : ∀ name, Option.Rel (OnItems FlatRespelled) (detail.get? name) (detail'.get? name) →
      detail.has name = detail'.has name := by
    intro name hrel
    unfold Fields.has
    generalize detail.get? name = x at hrel
    generalize detail'.get? name = y at hrel
    cases hrel <;> rfl
  have hinputs : readPorts node .input (detail.get "inputs") =
      readPorts node .input (detail'.get "inputs") :=
    readPorts_respelled (rel_getD h.inputs (.same _))
  have houtputs : readPorts node .output (detail.get "outputs") =
      readPorts node .output (detail'.get "outputs") :=
    readPorts_respelled (rel_getD h.outputs (.same _))
  unfold portsOf
  rw [hhas "inputs" h.inputs, hhas "outputs" h.outputs, hinputs, houtputs]

theorem settingsValue_alike (hrecord : DescribeAlike record record')
    (hdetail : DescribeAlike detail detail') :
    SettingsRespelled (settingsValue record detail) (settingsValue record' detail') := by
  unfold settingsValue
  rw [Fields.spelled_of_snakeCase (by decide), Fields.spelled_of_snakeCase (by decide)]
  have hproperties := hdetail.properties
  generalize detail.get "properties" = v at hproperties
  generalize detail'.get "properties" = w at hproperties
  cases hproperties with
  | record hab => exact .record hab
  | same =>
    split
    · exact hrecord.properties
    · exact .same _

theorem labelOf_alike (hrecord : DescribeAlike record record')
    (hdetail : DescribeAlike detail detail') : labelOf record detail = labelOf record' detail' := by
  unfold labelOf
  rw [hdetail.customLabel, hrecord.label, hdetail.label]

end Node

theorem nodePart_of_nested : nodePart (.str "blueprintNode") = DetailRespelled ∧
    nodePart (.str "blueprint_node") = DetailRespelled := by
  simp [nodePart]

/-- The record of a node describes it alike in both spellings, where no record is nested. -/
theorem describeAlike_of_node {a b : Fields} (h : Respelled IsCamelKey nodePart a b) :
    DescribeAlike a b := by
  refine h.describeAlike fun name hname => ?_
  have hother : name ≠ "blueprintNode" ∧ name ≠ "blueprint_node" := by
    revert name
    decide
  simp [nodePart, hother]

/-- The nested record, or the record itself, is refused in both spellings or in none. -/
theorem detailOf_respelled {a b : Fields} (h : Respelled IsCamelKey nodePart a b) (node : String) :
    (∃ e, detailOf node a = .error e ∧ detailOf node b = .error e) ∨
      ∃ detail detail', detailOf node a = .ok detail ∧ detailOf node b = .ok detail' ∧
        DescribeAlike detail detail' := by
  have hnested : DetailRespelled (a.spelled ["blueprintNode"]) (b.spelled ["blueprintNode"]) :=
    h.spelled_related (by decide) rfl nodePart_of_nested (.same _)
  unfold detailOf
  generalize a.spelled ["blueprintNode"] = v at hnested ⊢
  generalize b.spelled ["blueprintNode"] = w at hnested ⊢
  cases hnested with
  | record hdetail =>
    exact Or.inr ⟨_, _, rfl, rfl, hdetail.describeAlike fun _ _ => rfl⟩
  | same =>
    match v with
    | .null => exact Or.inr ⟨a, b, rfl, rfl, describeAlike_of_node h⟩
    | .map nested => exact Or.inr ⟨nested, nested, rfl, rfl, .refl nested⟩
    | .bool _ | .int _ | .float _ | .str _ | .list _ => exact Or.inl ⟨_, rfl, rfl⟩

theorem readNode_respelled {p : Palette} {v w : Value} (h : NodeRespelled v w) (k : Nat) :
    readNode p k v = readNode p k w := by
  refine h.congr fun a b hab => ?_
  have hid : requireId (.nodeAt k) a = requireId (.nodeAt k) b :=
    hab.requireId_eq (by simp [nodePart, detailPart]) _
  have halike := describeAlike_of_node hab
  unfold readNode
  rw [asMap, asMap, Load.lift_ok_bind, Load.lift_ok_bind, hid]
  congr 1
  funext id
  rcases detailOf_respelled hab id with ⟨e, ha, hb⟩ | ⟨detail, detail', ha, hb, hdetail⟩
  · rw [ha, hb]
    rfl
  · rw [ha, hb, Load.lift_ok_bind, Load.lift_ok_bind, statedType_alike halike hdetail]
    simp only [portsOf_alike hdetail, readSettings_respelled (settingsValue_alike halike hdetail),
      labelOf_alike halike hdetail]

/-! ## Edges -/

theorem edgePart_of_nested : edgePart (.str "blueprintEdge") = FlatRespelled ∧
    edgePart (.str "blueprint_edge") = FlatRespelled := by
  simp [edgePart]

theorem edgePart_of_other {name : String} (hcamel : name ≠ "blueprintEdge")
    (hsnake : name ≠ "blueprint_edge") : edgePart (.str name) = Eq := by
  simp [edgePart, hcamel, hsnake]

section Link

variable {part : Scalar → Value → Value → Prop} {a b : Fields}

/-- The keys of the ends and the ports of an edge. -/
def linkKeys : List String :=
  ["sourceNode", "source_node", "source", "targetNode", "target_node", "target", "sourcePort",
   "source_port", "targetPort", "target_port", "kind"]

/-- An end stands under a key with two spellings, or else under one with one spelling. -/
theorem end_respelled (h : Respelled IsCamelKey part a b)
    (hpart : ∀ name ∈ linkKeys, part (.str name) = Eq) {camel snake plain : String}
    (hcamel : camel ∈ camelKeys) (hsnake : Text.snakeCase camel = snake) (hplain : plain ∈ plainKeys)
    (hkeys : camel ∈ linkKeys ∧ snake ∈ linkKeys ∧ plain ∈ linkKeys)
    (hself : Text.snakeCase plain = plain) :
    a.spelled [camel, plain] = b.spelled [camel, plain] := by
  obtain ⟨hcamelKey, hsnakeKey, hplainKey⟩ := hkeys
  have hlast : a.spelled [plain] = b.spelled [plain] := by
    rw [Fields.spelled_of_snakeCase hself, Fields.spelled_of_snakeCase hself]
    exact h.get_eq hplain (hpart plain hplainKey)
  exact h.spelled_related hcamel hsnake ⟨hpart camel hcamelKey, hpart snake hsnakeKey⟩ hlast

theorem sourceOf_respelled (h : Respelled IsCamelKey part a b)
    (hpart : ∀ name ∈ linkKeys, part (.str name) = Eq) : sourceOf a = sourceOf b := by
  unfold sourceOf
  exact end_respelled h hpart (by decide) rfl (by decide) (by decide) rfl

theorem targetOf_respelled (h : Respelled IsCamelKey part a b)
    (hpart : ∀ name ∈ linkKeys, part (.str name) = Eq) : targetOf a = targetOf b := by
  unfold targetOf
  exact end_respelled h hpart (by decide) rfl (by decide) (by decide) rfl

theorem readLink_respelled (h : Respelled IsCamelKey part a b)
    (hpart : ∀ name ∈ linkKeys, part (.str name) = Eq) (place : Place) (id : String)
    (source target : Value) (ends : Fault) :
    readLink place id source target ends a = readLink place id source target ends b := by
  have hsourcePort : a.spelled ["sourcePort"] = b.spelled ["sourcePort"] :=
    h.spelled_related (by decide) rfl
      ⟨hpart "sourcePort" (by decide), hpart "source_port" (by decide)⟩ rfl
  have htargetPort : a.spelled ["targetPort"] = b.spelled ["targetPort"] :=
    h.spelled_related (by decide) rfl
      ⟨hpart "targetPort" (by decide), hpart "target_port" (by decide)⟩ rfl
  have hkind : a.get "kind" = b.get "kind" := h.get_eq (by decide) (hpart _ (by decide))
  unfold readLink
  rw [hsourcePort, htargetPort, hkind]

end Link

theorem readSnapshot_respelled {edge : String} {v w : Value} (h : FlatRespelled v w) :
    readSnapshot edge v = readSnapshot edge w := by
  refine h.congr fun a b hab => ?_
  unfold readSnapshot
  rw [asMap, asMap, ok_bind, ok_bind, hab.get?_eq (by decide) rfl,
    sourceOf_respelled hab fun _ _ => rfl, targetOf_respelled hab fun _ _ => rfl,
    readLink_respelled hab fun _ _ => rfl]

theorem snapshotOf_respelled {a b : Fields} (h : Respelled IsCamelKey edgePart a b) (edge : String) :
    snapshotOf edge a = snapshotOf edge b := by
  have hnested : FlatRespelled (a.spelled ["blueprintEdge"]) (b.spelled ["blueprintEdge"]) :=
    h.spelled_related (by decide) rfl edgePart_of_nested (.same _)
  unfold snapshotOf
  generalize a.spelled ["blueprintEdge"] = v at hnested ⊢
  generalize b.spelled ["blueprintEdge"] = w at hnested ⊢
  cases hnested with
  | same => rfl
  | record hab =>
    dsimp only
    rw [readSnapshot_respelled (.record hab)]

theorem readEdge_respelled {v w : Value} (h : EdgeRespelled v w) (k : Nat) :
    readEdge k v = readEdge k w := by
  refine h.congr fun a b hab => ?_
  have hpart : ∀ name ∈ linkKeys, edgePart (.str name) = Eq := by
    intro name hname
    have hother : name ≠ "blueprintEdge" ∧ name ≠ "blueprint_edge" := by
      revert name
      decide
    exact edgePart_of_other hother.1 hother.2
  unfold readEdge
  simp only [asMap, ok_bind, hab.requireId_eq (edgePart_of_other (by decide) (by decide)),
    snapshotOf_respelled hab, sourceOf_respelled hab hpart, targetOf_respelled hab hpart,
    readLink_respelled hab hpart]

/-! ## Documents -/

/-- Reading goes on alike with the items of two lists, where it goes on at all. -/
theorem asList_bind_congr {γ : Type} {r : Fields → Fields → Prop} {place : Place} {v w : Value}
    (h : OnItems (OnRecord r) v w) {f g : List Value → Load γ}
    (hfg : ∀ xs ys, List.Forall₂ (OnRecord r) xs ys → f xs = g ys) :
    (asList place v : Load (List Value)) >>= f = (asList place w : Load (List Value)) >>= g := by
  cases h with
  | items hxs =>
    rw [asList, asList, Load.lift_ok_bind, Load.lift_ok_bind]
    exact hfg _ _ hxs
  | same =>
    have hsame : f = g := funext fun xs => hfg xs xs (List.forall₂_same.mpr fun x _ => .same x)
    rw [hsame]

theorem readDiagram_respelled {p : Palette} {v w : Value} (h : DocumentRespelled v w) :
    readDiagram p v = readDiagram p w := by
  refine h.congr fun a b hab => ?_
  have hnodes : OnItems NodeRespelled (a.get "nodes") (b.get "nodes") :=
    hab.get_related (by decide) (by simp [graphPart]) (.same _)
  have hedges : OnItems EdgeRespelled (a.get "edges") (b.get "edges") :=
    hab.get_related (by decide) (by simp [graphPart]) (.same _)
  unfold readDiagram
  rw [asMap, asMap, Load.lift_ok_bind, Load.lift_ok_bind]
  refine asList_bind_congr hnodes fun xs ys hxs => ?_
  rw [readEach_congr hxs readNode_respelled]
  congr 1
  funext nodes
  refine asList_bind_congr hedges fun xs ys hxs => ?_
  rw [readEach_congr hxs readEdge_respelled]

theorem readDeclaration_respelled {v w : Value} (h : FlatRespelled v w) (k : Nat) :
    readDeclaration k v = readDeclaration k w := by
  refine h.congr fun a b hab => ?_
  have hdataType : a.spelled ["dataType", "dataKind"] = b.spelled ["dataType", "dataKind"] :=
    hab.spelled_related (by decide) rfl ⟨rfl, rfl⟩
      (hab.spelled_related (by decide) rfl ⟨rfl, rfl⟩ rfl)
  have hdefault : a.spelled ["defaultValue"] = b.spelled ["defaultValue"] :=
    hab.spelled_related (by decide) rfl ⟨rfl, rfl⟩ rfl
  have hname : a.get "name" = b.get "name" := hab.get_eq (by decide) rfl
  unfold readDeclaration
  simp only [asMap, ok_bind, hdataType, hdefault, hname, hab.requireId_eq rfl]

theorem readDeclarations_respelled {v w : Value} (h : DeclarationsRespelled v w) :
    readDeclarations v = readDeclarations w := by
  refine h.congr fun xs ys hxs => ?_
  show (readEach readDeclaration 0 xs).mapError _ = (readEach readDeclaration 0 ys).mapError _
  rw [readEach_congr hxs readDeclaration_respelled 0]

/-- **Keys in camel case and in snake case are interchangeable.** In a document, and in a list of
declared variables, any of them may be respelled, here and there, as long as no key comes to stand
twice in a record. The reading gives the same, with the same warnings and the same refusal. -/
theorem reading_of_respelled (v w : Value) :
    (DocumentRespelled v w → ∀ p, readDiagram p w = readDiagram p v) ∧
      (DeclarationsRespelled v w → readDeclarations w = readDeclarations v) := by
  constructor
  · intro h p
    exact (readDiagram_respelled h).symm
  · intro h
    exact (readDeclarations_respelled h).symm

/-- The respelled key of the port comes before another one that is asked for later, and that of the
edge hides its `source`. The first port is malformed, so the document is refused. -/
theorem reading_of_respelled_nested :
    let port (key : String) : Value :=
      .map [(.str "id", .str "in"), (.str "dataKind", .str "number"), (.str key, .str "string")]
    let settings (key : String) : Value := .map [(.str key, .int 3), (.str "Kind", .null)]
    let node (nested label data speed : String) : Value :=
      .map [(.str "id", .str "n"), (.str nested, .map [(.str "type", .str "Sensor"),
        (.str label, .str "Eye"), (.str "inputs", .list [.int 1, port data]),
        (.str "properties", settings speed)])]
    let edge (outer inner : String) : Value :=
      .map [(.str "id", .str "e"), (.str "source", .str "m"), (.str outer, .str "n"),
        (.str "blueprintEdge", .map [(.str "sourceNode", .str "m"), (.str inner, .str "n")])]
    let document (node edge : Value) : Value :=
      .map [(.str "nodes", .list [node]), (.str "edges", .list [edge])]
    let camel := document (node "blueprintNode" "customLabel" "dataType" "maxSpeed")
      (edge "sourceNode" "targetNode")
    let snake := document (node "blueprint_node" "custom_label" "data_type" "max_speed")
      (edge "source_node" "target_node")
    DocumentRespelled camel snake ∧ DeclarationsRespelled (.list [port "dataType"])
        (.list [port "data_type"]) ∧
      readDiagram Palette.standard snake = readDiagram Palette.standard camel ∧
      readDeclarations (.list [port "data_type"]) = readDeclarations (.list [port "dataType"]) := by
  intro port settings node edge document camel snake
  have hport : FlatRespelled (port "dataType") (port "data_type") :=
    .record ⟨[.str "dataType"], by simp [IsCamelKey, camelKeys], by decide, by decide,
      .cons ⟨rfl, rfl⟩ (.cons ⟨rfl, rfl⟩ (.cons ⟨rfl, rfl⟩ .nil))⟩
  have hsettings : SettingsRespelled (settings "maxSpeed") (settings "max_speed") :=
    .record ⟨[.str "maxSpeed"], by simp, by decide, by decide,
      .cons ⟨rfl, rfl⟩ (.cons ⟨rfl, rfl⟩ .nil)⟩
  have hnode : NodeRespelled (node "blueprintNode" "customLabel" "dataType" "maxSpeed")
      (node "blueprint_node" "custom_label" "data_type" "max_speed") :=
    .record ⟨[.str "blueprintNode"], by simp [IsCamelKey, camelKeys], by decide, by decide,
      .cons ⟨rfl, rfl⟩ (.cons ⟨by decide, .record ⟨[.str "customLabel"],
        by simp [IsCamelKey, camelKeys], by decide, by decide,
        .cons ⟨rfl, rfl⟩ (.cons ⟨rfl, rfl⟩ (.cons ⟨rfl, .items (.cons (.same _) (.cons hport .nil))⟩
          (.cons ⟨rfl, hsettings⟩ .nil)))⟩⟩ .nil)⟩
  have hedge : EdgeRespelled (edge "sourceNode" "targetNode") (edge "source_node" "target_node") :=
    .record ⟨[.str "sourceNode"], by simp [IsCamelKey, camelKeys], by decide, by decide,
      .cons ⟨rfl, rfl⟩ (.cons ⟨rfl, rfl⟩ (.cons ⟨rfl, rfl⟩ (.cons ⟨rfl, .record ⟨[.str "targetNode"],
        by simp [IsCamelKey, camelKeys], by decide, by decide,
        .cons ⟨rfl, rfl⟩ (.cons ⟨rfl, rfl⟩ .nil)⟩⟩ .nil)))⟩
  have hdocument : DocumentRespelled camel snake :=
    .record ⟨[], by simp, by simp, by simp,
      .cons ⟨rfl, .items (.cons hnode .nil)⟩ (.cons ⟨rfl, .items (.cons hedge .nil)⟩ .nil)⟩
  have hdeclarations : DeclarationsRespelled (.list [port "dataType"]) (.list [port "data_type"]) :=
    .items (.cons hport .nil)
  exact ⟨hdocument, hdeclarations, (reading_of_respelled _ _).1 hdocument _,
    (reading_of_respelled _ _).2 hdeclarations⟩

end Document

end Blueprint
