import Mathlib.Logic.Relation
import Blueprint.Audit.Basic
import Blueprint.Proofs.LastEntry

/-!
# Proofs: the rule that an audit decides

Which codes a program has, exports and reports is said here of the program as a whole: by where its
statements and expressions stand in it, and not by going through it. An audit finds no violation if
and only if every code is spelled like its name, exported and reported. That codes have different
texts need not be asked for, since two codes with one text cannot both be spelled like their names.
-/

namespace Blueprint.Audit

open Relation

/-! ## Reporting calls at any depth -/

/-- A visit that goes through something and then through its parts finds what is found at any depth,
and nothing else. -/
theorem mem_visit_iff {α β : Type} [SizeOf α] {parts : α → List α} {own visit : α → List β}
    (hsize : ∀ a, ∀ part ∈ parts a, sizeOf part < sizeOf a)
    (hvisit : ∀ a, visit a = own a ++ (parts a).flatMap visit) {a : α} {x : β} :
    x ∈ visit a ↔ ∃ b, ReflTransGen (fun part whole => part ∈ parts whole) b a ∧ x ∈ own b := by
  constructor
  · induction hn : sizeOf a using Nat.strongRecOn generalizing a with
    | ind n ih =>
      intro hx
      rw [hvisit, List.mem_append, List.mem_flatMap] at hx
      rcases hx with hown | ⟨part, hpart, hx⟩
      · exact ⟨a, .refl, hown⟩
      · obtain ⟨b, hb, hown⟩ := ih (sizeOf part) (hn ▸ hsize a part hpart) rfl hx
        exact ⟨b, hb.tail hpart, hown⟩
  · rintro ⟨b, hb, hown⟩
    induction hb with
    | refl =>
      rw [hvisit]
      exact List.mem_append_left _ hown
    | tail _ hpart ih =>
      rw [hvisit]
      exact List.mem_append_right _ (List.mem_flatMap.mpr ⟨_, hpart, ih⟩)

namespace Expression

/-- The expressions that an expression is made of. -/
def parts : Expression → List Expression
  | .name _ | .constant _ => []
  | .list items | .tuple items | .compound items => items
  | .member object _ => [object]
  | .call function arguments named => function :: (arguments ++ named.map (·.2))

/-- An expression is part of another one at some depth, or is the other one. -/
def Within : Expression → Expression → Prop := ReflTransGen fun part whole => part ∈ whole.parts

theorem sizeOf_lt_of_mem_parts (e : Expression) : ∀ part ∈ e.parts, sizeOf part < sizeOf e := by
  intro part h
  cases e with
  | name | constant => cases h
  | list items | tuple items | compound items =>
    have hsize : sizeOf part < sizeOf items := List.sizeOf_lt_of_mem h
    simp only [list.sizeOf_spec, tuple.sizeOf_spec, compound.sizeOf_spec]
    omega
  | member object name =>
    obtain rfl := List.mem_singleton.mp h
    simp only [member.sizeOf_spec]
    omega
  | call function arguments named =>
    simp only [call.sizeOf_spec]
    rcases List.mem_cons.mp h with rfl | h
    · omega
    · rcases List.mem_append.mp h with h | h
      · have hsize := List.sizeOf_lt_of_mem h
        omega
      · obtain ⟨entry, hmem, rfl⟩ := List.mem_map.mp h
        have hsize := List.sizeOf_lt_of_mem hmem
        have hentry : sizeOf entry = 1 + sizeOf entry.1 + sizeOf entry.2 := rfl
        omega

/-- What an expression reports if it is a reporting call. -/
def reportedHere : Expression → List String
  | .call function arguments _ => reportedBy function arguments
  | _ => []

theorem mem_reportedHere {e : Expression} {name : String} :
    name ∈ e.reportedHere ↔
      ∃ object rest named, e = .call (.member object "_push") (.name name :: rest) named := by
  constructor
  · intro h
    unfold reportedHere at h
    split at h
    · next function arguments named =>
      unfold reportedBy at h
      split at h
      · next object called id rest =>
        split at h
        · next hcalled =>
          obtain rfl := List.mem_singleton.mp h
          exact ⟨object, rest, named, by rw [hcalled]; rfl⟩
        · cases h
      · cases h
    · cases h
  · rintro ⟨object, rest, named, rfl⟩
    exact List.mem_singleton_self name

theorem reportedInAll_eq (items : List Expression) :
    reportedInAll items = items.flatMap reported := by
  induction items with
  | nil => rfl
  | cons e items ih => rw [reportedInAll, List.flatMap_cons, ih]

theorem reportedInNamed_eq (named : List (String × Expression)) :
    reportedInNamed named = (named.map (·.2)).flatMap reported := by
  induction named with
  | nil => rfl
  | cons entry named ih => rw [reportedInNamed, List.map_cons, List.flatMap_cons, ih]

theorem reported_eq (e : Expression) : e.reported = e.reportedHere ++ e.parts.flatMap reported := by
  cases e with
  | name | constant => rfl
  | list items | tuple items | compound items => exact reportedInAll_eq items
  | member object name =>
    rw [reported, parts, List.flatMap_singleton]
    rfl
  | call function arguments named =>
    rw [reported, reportedInAll_eq, reportedInNamed_eq, parts, List.flatMap_cons,
      List.flatMap_append]
    simp only [reportedHere, List.append_assoc]

theorem mem_reported {e : Expression} {name : String} :
    name ∈ e.reported ↔ ∃ object rest named,
      (Expression.call (.member object "_push") (.name name :: rest) named).Within e := by
  rw [mem_visit_iff sizeOf_lt_of_mem_parts reported_eq]
  constructor
  · rintro ⟨call, hwithin, hcall⟩
    obtain ⟨object, rest, named, rfl⟩ := mem_reportedHere.mp hcall
    exact ⟨object, rest, named, hwithin⟩
  · rintro ⟨object, rest, named, hwithin⟩
    exact ⟨_, hwithin, mem_reportedHere.mpr ⟨object, rest, named, rfl⟩⟩

end Expression

namespace Statement

/-- The expressions that a statement is made of, without those of the statements in it. -/
def expressions : Statement → List Expression
  | .assign targets value => targets ++ [value]
  | .annotated target value | .augmented target value => [target, value]
  | .evaluate e | .giveBack e => [e]
  | .conditional test _ => [test]
  | .compound parts _ => parts
  | .function _ _ | .classDefinition _ _ | .blank _ => []

/-- The statements in a statement. -/
def body : Statement → List Statement
  | .function _ body | .classDefinition _ body | .conditional _ body | .compound _ body => body
  | _ => []

/-- A statement stands in another one at some depth, or is the other one. -/
def Within : Statement → Statement → Prop := ReflTransGen fun inner outer => inner ∈ outer.body

theorem sizeOf_lt_of_mem_body (s : Statement) : ∀ inner ∈ s.body, sizeOf inner < sizeOf s := by
  intro inner h
  have hsize : sizeOf inner < sizeOf s.body := List.sizeOf_lt_of_mem h
  cases s with
  | function name body | classDefinition name body | conditional test body | compound parts body =>
    have hbody : sizeOf inner < sizeOf body := hsize
    simp only [function.sizeOf_spec, classDefinition.sizeOf_spec, conditional.sizeOf_spec,
      compound.sizeOf_spec]
    omega
  | _ => cases h

theorem reported_program_eq (program : Program) :
    Program.reported program = program.flatMap reported := by
  induction program with
  | nil => rfl
  | cons s program ih => rw [Program.reported, List.flatMap_cons, ih]

theorem reported_eq (s : Statement) :
    s.reported = s.expressions.flatMap Expression.reported ++ s.body.flatMap reported := by
  cases s <;>
    simp [reported, expressions, body, Expression.reportedInAll_eq, reported_program_eq]

end Statement

/-- An expression stands somewhere in a program: in a statement at some depth, and there in an
expression at some depth. -/
def Occurs (e : Expression) (program : Program) : Prop :=
  ∃ outer ∈ program, ∃ s : Statement, s.Within outer ∧ ∃ whole ∈ s.expressions, e.Within whole

/-- Some call to a member `_push`, anywhere in the program, has the name for its first positional
argument. -/
def IsReported (program : Program) (name : String) : Prop :=
  ∃ object rest named, Occurs (.call (.member object "_push") (.name name :: rest) named) program

theorem mem_reported {program : Program} {name : String} :
    name ∈ Program.reported program ↔ IsReported program name := by
  rw [Statement.reported_program_eq, List.mem_flatMap]
  constructor
  · rintro ⟨outer, houter, hname⟩
    obtain ⟨s, hs, hown⟩ :=
      (mem_visit_iff Statement.sizeOf_lt_of_mem_body Statement.reported_eq).mp hname
    obtain ⟨whole, hwhole, hname⟩ := List.mem_flatMap.mp hown
    obtain ⟨object, rest, named, hcall⟩ := Expression.mem_reported.mp hname
    exact ⟨object, rest, named, outer, houter, s, hs, whole, hwhole, hcall⟩
  · rintro ⟨object, rest, named, outer, houter, s, hs, whole, hwhole, hcall⟩
    have hname : name ∈ whole.reported := Expression.mem_reported.mpr ⟨object, rest, named, hcall⟩
    refine ⟨outer, houter, ?_⟩
    rw [mem_visit_iff Statement.sizeOf_lt_of_mem_body Statement.reported_eq]
    exact ⟨s, hs, List.mem_flatMap.mpr ⟨whole, hwhole, hname⟩⟩

/-! ## Codes -/

/-- The statement that assigns a text to a name, and to nothing else. -/
def naming (name value : String) : Statement := .assign [.name name] (.constant (.str value))

/-- The program assigns a text to a name in capitals and later on no other text to that name. -/
def IsCode (program : Program) (name value : String) : Prop :=
  Text.inCapitals name = true ∧ ∃ before after, program = before ++ naming name value :: after ∧
    ∀ other, naming name other ∉ after

theorem codeOf?_eq_some {x : Nat × Statement} {c : Code} :
    codeOf? x = some c ↔ x = (c.line, naming c.name c.value) ∧ Text.inCapitals c.name = true := by
  constructor
  · intro h
    unfold codeOf? at h
    split at h
    · next line name value =>
      split at h
      · next hcapitals =>
        obtain rfl := Option.some.inj h
        exact ⟨rfl, hcapitals⟩
      · cases h
    · cases h
  · rintro ⟨rfl, hcapitals⟩
    exact if_pos hcapitals

theorem putCode_eq_putBy (c : Code) (known : List Code) :
    putCode c known = putBy (·.name) c known := by
  induction known with
  | nil => rfl
  | cons d known ih => rw [putCode, putBy, ih]

theorem codes_eq_tableOf (program : Program) :
    codes program = tableOf (·.name) ((Program.located 1 program).filterMap codeOf?) := by
  unfold codes tableOf
  simp only [putCode_eq_putBy]

theorem nodup_names_codes (program : Program) : ((codes program).map (·.name)).Nodup := by
  rw [codes_eq_tableOf]
  exact nodup_tableOf

theorem map_snd_located (line : Nat) (program : Program) :
    (Program.located line program).map (·.2) = program := by
  induction program generalizing line with
  | nil => rfl
  | cons s program ih => rw [Program.located, List.map_cons, ih]

theorem mem_codes {program : Program} {name value : String} :
    (∃ line, ⟨name, line, value⟩ ∈ codes program) ↔ IsCode program name value := by
  have hlocated := map_snd_located 1 program
  simp only [codes_eq_tableOf, mem_tableOf, isLast_filterMap, codeOf?_eq_some]
  constructor
  · rintro ⟨line, before, _, after, hsplit, ⟨rfl, hcapitals⟩, hlast⟩
    rw [hsplit, List.map_append, List.map_cons] at hlocated
    refine ⟨hcapitals, before.map (·.2), after.map (·.2), hlocated.symm, fun other hother => ?_⟩
    obtain ⟨⟨line', _⟩, hmem, rfl⟩ := List.mem_map.mp hother
    exact hlast _ hmem ⟨name, line', other⟩ ⟨rfl, hcapitals⟩ rfl
  · rintro ⟨hcapitals, before, after, rfl, hlast⟩
    obtain ⟨before', rest, hsplit, -, hrest⟩ := List.map_eq_append_iff.mp hlocated
    obtain ⟨⟨line, s⟩, after', rfl, hs, rfl⟩ := List.map_eq_cons_iff.mp hrest
    obtain rfl : s = naming name value := hs
    refine ⟨line, before', _, after', hsplit, ⟨rfl, hcapitals⟩, ?_⟩
    rintro z hz c ⟨rfl, -⟩ hname
    exact hlast c.value (List.mem_map.mpr ⟨_, hz, congrArg (naming · c.value) hname⟩)

/-! ## Exports -/

/-- The first list that the program assigns to the name of the exports has the text in it. -/
def Exports (program : Program) (text : String) : Prop :=
  ∃ before targets items after, program = before ++ .assign targets (.list items) :: after ∧
    .name "__all__" ∈ targets ∧ .constant (.str text) ∈ items ∧
    ∀ targets' items', .name "__all__" ∈ targets' → .assign targets' (.list items') ∉ before

theorem any_isExportsName {targets : List Expression} :
    targets.any isExportsName = true ↔ .name "__all__" ∈ targets := by
  rw [List.any_eq_true]
  constructor
  · rintro ⟨e, he, hname⟩
    unfold isExportsName at hname
    split at hname
    · next id =>
      obtain rfl : id = "__all__" := by simpa [exportsName] using hname
      exact he
    · cases hname
  · intro h
    exact ⟨_, h, by simp [isExportsName, exportsName]⟩

theorem exportsOf?_eq_some {s : Statement} {texts : List String} :
    exportsOf? s = some texts ↔ ∃ targets items, s = .assign targets (.list items) ∧
      .name "__all__" ∈ targets ∧ items.filterMap constantText? = texts := by
  constructor
  · intro h
    unfold exportsOf? at h
    split at h
    · next targets items =>
      split at h
      · next hany => exact ⟨targets, items, rfl, any_isExportsName.mp hany, Option.some.inj h⟩
      · cases h
    · cases h
  · rintro ⟨targets, items, rfl, hname, rfl⟩
    exact if_pos (any_isExportsName.mpr hname)

theorem constantText?_eq_some {e : Expression} {text : String} :
    constantText? e = some text ↔ e = .constant (.str text) := by
  constructor
  · intro h
    unfold constantText? at h
    split at h
    · obtain rfl := Option.some.inj h
      rfl
    · cases h
  · rintro rfl
    rfl

theorem mem_exported {program : Program} {text : String} :
    text ∈ exported program ↔ Exports program text := by
  unfold exported
  constructor
  · intro h
    cases hfound : program.findSome? exportsOf? with
    | none =>
      rw [hfound] at h
      cases h
    | some texts =>
      rw [hfound, Option.getD_some] at h
      obtain ⟨before, s, after, rfl, hs, hbefore⟩ := List.findSome?_eq_some_iff.mp hfound
      obtain ⟨targets, items, rfl, hname, rfl⟩ := exportsOf?_eq_some.mp hs
      obtain ⟨e, he, htext⟩ := List.mem_filterMap.mp h
      obtain rfl := constantText?_eq_some.mp htext
      refine ⟨before, targets, items, after, rfl, hname, he, fun targets' items' hname' hmem => ?_⟩
      have hlist := exportsOf?_eq_some.mpr ⟨targets', items', rfl, hname', rfl⟩
      cases (hbefore _ hmem).symm.trans hlist
  · rintro ⟨before, targets, items, after, rfl, hname, htext, hbefore⟩
    have hfound : (before ++ .assign targets (.list items) :: after).findSome? exportsOf? =
        some (items.filterMap constantText?) := by
      refine List.findSome?_eq_some_iff.mpr ⟨before, _, after, rfl, ?_, fun s hs => ?_⟩
      · exact exportsOf?_eq_some.mpr ⟨targets, items, rfl, hname, rfl⟩
      · rw [Option.eq_none_iff_forall_ne_some]
        intro texts htexts
        obtain ⟨targets', items', rfl, hname', -⟩ := exportsOf?_eq_some.mp htexts
        exact hbefore targets' items' hname' hs
    rw [hfound, Option.getD_some]
    exact List.mem_filterMap.mpr ⟨_, htext, rfl⟩

/-! ## Violations -/

theorem mem_problems {earlier : List Code} {exported reported : List String} {c : Code}
    {problem : Problem} :
    problem ∈ problems earlier exported reported c ↔
      (c.value ≠ c.name ∧ problem = .misspelled c.value) ∨
      (∃ first, earlier.find? (·.value == c.value) = some first ∧
        problem = .duplicates first.name) ∨
      (c.name ∉ exported ∧ problem = .unexported) ∨
      (¬ (c.name ∈ reported ∨ c.name ∈ reportedElsewhere) ∧ problem = .unreported) := by
  unfold problems
  simp only [List.mem_append, List.mem_ite_nil_left, List.mem_singleton, or_assoc]
  cases earlier.find? (·.value == c.value) with
  | none => simp
  | some first => simp

/-- A violation comes from a code and those before it. -/
theorem mem_violationsOf {exported reported : List String} {earlier cs : List Code}
    {v : Violation} :
    v ∈ violationsOf exported reported earlier cs ↔
      ∃ before after, cs = before ++ v.code :: after ∧
        v.problem ∈ problems (earlier ++ before) exported reported v.code := by
  induction cs generalizing earlier with
  | nil => simp [violationsOf]
  | cons c cs ih =>
    rw [violationsOf, List.mem_append, List.mem_map, ih]
    constructor
    · rintro (⟨problem, hproblem, rfl⟩ | ⟨before, after, rfl, hproblem⟩)
      · exact ⟨[], cs, rfl, by rwa [List.append_nil]⟩
      · exact ⟨c :: before, after, rfl, by rwa [List.append_cons]⟩
    · rintro ⟨before, after, hsplit, hproblem⟩
      cases before with
      | nil =>
        obtain ⟨rfl, rfl⟩ := List.cons.inj hsplit
        rw [List.append_nil] at hproblem
        exact Or.inl ⟨v.problem, hproblem, rfl⟩
      | cons d before =>
        obtain ⟨rfl, rfl⟩ := List.cons.inj hsplit
        rw [List.append_cons] at hproblem
        exact Or.inr ⟨before, after, rfl, hproblem⟩

theorem mem_violations {program : Program} {v : Violation} :
    v ∈ violations program ↔ ∃ before after, codes program = before ++ v.code :: after ∧
      v.problem ∈ problems before (exported program) (Program.reported program) v.code :=
  mem_violationsOf

/-- Two codes with one text have different names, so one of them is not spelled like its name. -/
theorem exists_misspelled_code {program : Program} {before after : List Code} {c first : Code}
    (hcodes : codes program = before ++ c :: after)
    (hfirst : before.find? (·.value == c.value) = some first) :
    ∃ d ∈ codes program, d.value ≠ d.name := by
  have hmem : first ∈ before := List.mem_of_find?_eq_some hfirst
  have hvalue : first.value = c.value := by simpa using List.find?_some hfirst
  have hname : first.name ≠ c.name := by
    have hnodup := nodup_names_codes program
    rw [hcodes, List.map_append, List.nodup_append] at hnodup
    exact hnodup.2.2 _ (List.mem_map_of_mem hmem) _ (List.mem_cons_self ..)
  rw [hcodes]
  by_cases hc : c.value = c.name
  · refine ⟨first, List.mem_append_left _ hmem, fun hspelled => hname ?_⟩
    exact hspelled.symm.trans (hvalue.trans hc)
  · exact ⟨c, List.mem_append_cons_self, hc⟩

theorem exists_misspelled_violation {program : Program} {c : Code} (hc : c ∈ codes program)
    (hne : c.value ≠ c.name) :
    ∃ v ∈ violations program, ∃ value, v.problem = .misspelled value := by
  obtain ⟨before, after, hcodes⟩ := List.append_of_mem hc
  refine ⟨⟨c, .misspelled c.value⟩, mem_violations.mpr ⟨before, after, hcodes, ?_⟩, c.value, rfl⟩
  exact mem_problems.mpr (Or.inl ⟨hne, rfl⟩)

theorem violations_eq_nil_iff {program : Program} :
    violations program = [] ↔ ∀ c ∈ codes program, c.value = c.name ∧
      c.name ∈ exported program ∧
      (c.name ∈ Program.reported program ∨ c.name ∈ reportedElsewhere) := by
  constructor
  · intro h c hc
    obtain ⟨before, after, hcodes⟩ := List.append_of_mem hc
    have hnone : ∀ problem,
        problem ∉ problems before (exported program) (Program.reported program) c := by
      intro problem hproblem
      have hv : ⟨c, problem⟩ ∈ violations program :=
        mem_violations.mpr ⟨before, after, hcodes, hproblem⟩
      rw [h] at hv
      cases hv
    simp only [mem_problems, not_or] at hnone
    refine ⟨?_, ?_, ?_⟩
    · by_contra hne
      exact (hnone _).1 ⟨hne, rfl⟩
    · by_contra hne
      exact (hnone _).2.2.1 ⟨hne, rfl⟩
    · by_contra hne
      exact (hnone _).2.2.2 ⟨not_or.mp hne, rfl⟩
  · intro h
    rw [List.eq_nil_iff_forall_not_mem]
    intro v hv
    obtain ⟨before, after, hcodes, hproblem⟩ := mem_violations.mp hv
    have hmem : v.code ∈ codes program := by
      rw [hcodes]
      exact List.mem_append_cons_self
    obtain ⟨hspelled, hexported, hreported⟩ := h v.code hmem
    rcases mem_problems.mp hproblem with ⟨hne, -⟩ | ⟨first, hfirst, -⟩ | ⟨hne, -⟩ | ⟨hne, -⟩
    · exact hne hspelled
    · obtain ⟨d, hd, hne⟩ := exists_misspelled_code hcodes hfirst
      exact hne (h d hd).1
    · exact hne hexported
    · exact hne hreported

/-- **An audit decides the rule for codes.** It finds no violation if and only if every code is
spelled like its name, exported and, with one exception, reported by some call anywhere in the
program. A code that duplicates another one is never all that is wrong: a misspelled one is found,
too. -/
theorem violations_decide_rule (program : Program) :
    (violations program = [] ↔ ∀ name value, IsCode program name value →
      value = name ∧ Exports program name ∧ (name ≠ "GRAPH_EMPTY" → IsReported program name)) ∧
    ((∃ v ∈ violations program, ∃ first, v.problem = .duplicates first) →
      ∃ v ∈ violations program, ∃ value, v.problem = .misspelled value) := by
  constructor
  · rw [violations_eq_nil_iff]
    constructor
    · intro h name value hcode
      obtain ⟨line, hmem⟩ := mem_codes.mpr hcode
      obtain ⟨hspelled, hexported, hreported⟩ := h _ hmem
      refine ⟨hspelled, mem_exported.mp hexported, fun hne => mem_reported.mp ?_⟩
      exact hreported.resolve_right fun helsewhere => hne (List.mem_singleton.mp helsewhere)
    · intro h c hc
      obtain ⟨hspelled, hexports, hreports⟩ := h c.name c.value (mem_codes.mp ⟨c.line, hc⟩)
      refine ⟨hspelled, mem_exported.mpr hexports, ?_⟩
      by_cases hname : c.name = "GRAPH_EMPTY"
      · exact Or.inr (List.mem_singleton.mpr hname)
      · exact Or.inl (mem_reported.mpr (hreports hname))
  · rintro ⟨v, hv, first, hduplicates⟩
    obtain ⟨before, after, hcodes, hproblem⟩ := mem_violations.mp hv
    rw [hduplicates] at hproblem
    rcases mem_problems.mp hproblem with ⟨-, h⟩ | ⟨code, hcode, -⟩ | ⟨-, h⟩ | ⟨-, h⟩
    · cases h
    · obtain ⟨d, hd, hne⟩ := exists_misspelled_code hcodes hcode
      exact exists_misspelled_violation hd hne
    · cases h
    · cases h

/-- The first text of a code does not count, and its report stands in the function of another call,
in a body in a body. In `clashing` the second code takes the text of the first one. -/
theorem violations_decide_rule_of_reassigned :
    let push : Expression := .call (.member (.name "self") "_push") [.name "NO_ENTRY"] []
    let program : Program :=
      [.assign [.name "__all__"]
          (.list [.constant (.str "GRAPH_EMPTY"), .constant (.str "NO_ENTRY")]),
        naming "NO_ENTRY" "UNKNOWN", naming "GRAPH_EMPTY" "GRAPH_EMPTY",
        naming "NO_ENTRY" "NO_ENTRY",
        .function "check" [.conditional (.name "missing") [.evaluate (.call push [] [])]]]
    let clashing : Program := [naming "NO_ENTRY" "NO_ENTRY", naming "NO_EXIT" "NO_ENTRY"]
    violations program = [] ∧ IsCode program "NO_ENTRY" "NO_ENTRY" ∧
      Exports program "NO_ENTRY" ∧ IsReported program "NO_ENTRY" ∧
      (∃ v ∈ violations clashing, ∃ first, v.problem = .duplicates first) ∧
      ∃ v ∈ violations clashing, ∃ value, v.problem = .misspelled value := by
  intro push program clashing
  have hnone : violations program = [] := by decide
  have hcode : IsCode program "NO_ENTRY" "NO_ENTRY" := by
    refine ⟨by decide, program.take 3, program.drop 4, rfl, fun other hother => ?_⟩
    rcases List.mem_singleton.mp hother
  have hduplicates : ∃ v ∈ violations clashing, ∃ first, v.problem = .duplicates first :=
    ⟨⟨⟨"NO_EXIT", 2, "NO_ENTRY"⟩, .duplicates "NO_ENTRY"⟩, by decide, "NO_ENTRY", rfl⟩
  obtain ⟨-, hexports, hreports⟩ :=
    (violations_decide_rule program).1.mp hnone "NO_ENTRY" "NO_ENTRY" hcode
  exact ⟨hnone, hcode, hexports, hreports (by decide), hduplicates,
    (violations_decide_rule clashing).2 hduplicates⟩

end Blueprint.Audit
