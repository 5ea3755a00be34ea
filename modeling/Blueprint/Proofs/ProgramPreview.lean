import Blueprint.Proofs.Inspection
import Blueprint.Proofs.Resolved

/-!
# Proofs: the preview of a program

A diagram without errors starts at one entry, control does not go round in it, and it comes to
every node that has a control port. The preview starts at all entries and follows all control edges,
the illegal ones included. It finds the same of such a diagram: nothing is without an order, and no
assignment is missed. What is left to make a variable unknown is a value brought from elsewhere.
-/

namespace Blueprint

open Relation

namespace Diagram.IsProgram

variable {d : Diagram} {p : Palette} {entry : Node}

theorem entry_mem (h : d.IsProgram p entry) : entry ∈ d.nodes ∧ entry.role = .entry :=
  mem_of_nodesOf h.entry_only

theorem not_unordered (h : d.IsProgram p entry) (id : String) : ¬ d.Unordered id := by
  rintro ⟨c, -, hloop, -⟩
  exact h.acyclic c hloop

theorem tainted_eq_nil (h : d.IsProgram p entry) : (Execution.of d).tainted = [] := by
  rw [List.eq_nil_iff_forall_not_mem]
  intro id hid
  exact h.not_unordered id (Execution.mem_tainted.mp hid)

theorem not_isTainted (h : d.IsProgram p entry) (v : String) :
    ¬ (Execution.of d).isTainted v = true := by
  rw [Execution.isTainted_iff]
  rintro ⟨n, -, hunordered⟩
  exact h.not_unordered n.id hunordered

/-- Execution comes to every assigning node that has a control port. -/
theorem assigns (h : d.IsProgram p entry) {id v : String} {n : Node} (hn : d.node? id = some n)
    (hrole : n.role = .assign) (hbound : n.boundTo? = some v) (hport : n.hasControlPort = true) :
    d.Assigns n v := by
  obtain ⟨hmem, rfl⟩ := node?_eq_some hn
  obtain ⟨hentry, hstart⟩ := h.entry_mem
  refine ⟨hn, ?_, hrole, hbound⟩
  rcases h.reached n hmem (by simp [hrole]) with hwalk | ⟨-, hports⟩
  · exact ⟨entry, hentry, hstart, hwalk⟩
  · obtain ⟨port, hin, hcontrol⟩ := List.any_eq_true.mp hport
    refine absurd ?_ (hports port hin)
    simpa [Port.isControl, DataType.isControl] using hcontrol

end Diagram.IsProgram

namespace Produced

theorem candidates_combine (default : Value) (candidates : List String) (ms : List Produced) :
    (combine default candidates ms).candidates = candidates := by
  match ms with
  | [] => rfl
  | [_] => rfl
  | first :: second :: rest =>
    rw [combine]
    split
    · rfl
    · split <;> rfl

/-- Assignments are unknown together only if one of them is. -/
theorem exists_unknown_of_combine {default : Value} {candidates : List String} {ms : List Produced}
    (h : (combine default candidates ms).status = .unknown) : ∃ m ∈ ms, m.status = .unknown := by
  match ms with
  | [] => cases h
  | [only] => exact ⟨only, List.mem_singleton_self only, h⟩
  | first :: second :: rest =>
    rw [combine] at h
    split at h
    · cases h
    · split at h
      · next hunknown => simpa using hunknown
      · cases h

end Produced

namespace Survey

variable {d : Diagram} {p : Palette} {declarations : List Declaration}

theorem candidates_resolve {s : Survey} {look : String → Resolution} {declared : Declaration}
    (hentry : s.hasEntry = true) : (s.resolve look declared).candidates =
      (s.execution.assignments declared.id).map (·.id) := by
  by_cases hstop : s.execution.isTainted declared.id = true ∨ declared.id ∈ s.entangled
  · rw [resolve_of_stopped hentry hstop]
  · obtain ⟨hordered, hfree⟩ := not_or.mp hstop
    rw [resolve_of_ordered hentry hordered hfree, Produced.candidates_combine]

/-- If the assignments are in order and no value is brought to any of them, something is known. -/
theorem status_resolve_ne_unknown {look : String → Resolution} {declared : Declaration}
    (hentry : (of d p declarations).hasEntry = true)
    (hordered : ¬ (Execution.of d).isTainted declared.id = true)
    (hfeeds : ∀ n, d.Assigns n declared.id → d.valueFeeds n = []) :
    ((of d p declarations).resolve look declared).status ≠ .unknown := by
  -- a variable that copies itself, directly or not, has an assignment that a value is brought to
  have hfree : declared.id ∉ (of d p declarations).entangled := by
    intro hmem
    obtain ⟨w, hstep, -⟩ := TransGen.head'_iff.mp (mem_entangled.mp hmem)
    obtain ⟨-, -, n, e, hn, hfed, -⟩ := step_copyLinks.mp hstep
    rw [hfeeds n hn] at hfed
    cases hfed
  rw [resolve_of_ordered hentry hordered hfree]
  intro hunknown
  obtain ⟨m, hm, hstatus⟩ := Produced.exists_unknown_of_combine hunknown
  obtain ⟨n, hn, rfl⟩ := List.mem_map.mp hm
  have hown := Execution.supply_eq_own (p := p) (hfeeds n (Execution.mem_assignments.mp hn))
  rw [of_execution, of_palette, hown] at hstatus
  cases hentered : n.override? with
  | none => rw [hentered, Supply.produced] at hstatus; cases hstatus
  | some x => rw [hentered, Supply.produced] at hstatus; cases hstatus

end Survey

/-- **The preview agrees with the inspection.** In a diagram without errors nothing is tainted, and
among the candidates of a declared variable is every name that stands for an assignment of it with
a control port. So a variable is not unknown if no value is brought to any of its candidates. -/
theorem Diagram.preview_of_inspect_ok (d : Diagram) (p : Palette) (declarations : List Declaration)
    (h : (d.inspect p).ok = true) :
    (Survey.of d p declarations).execution.tainted = [] ∧
    ∀ v, (∃ declared ∈ declarations, declared.id = v) →
      ∃ r, (d.preview p declarations).lookup v = some r ∧
        (∀ id n, d.node? id = some n → n.role = .assign → n.boundTo? = some v →
          n.hasControlPort = true → id ∈ r.candidates) ∧
        ((∀ id ∈ r.candidates, ∀ n, d.node? id = some n → d.valueFeeds n = []) →
          r.status ≠ .unknown) := by
  obtain ⟨entry, hprogram⟩ := Inspection.isProgram_of_harmless (Report.ok_iff.mp h)
  refine ⟨hprogram.tainted_eq_nil, fun v hv => ?_⟩
  have hentry : (Survey.of d p declarations).hasEntry = true :=
    Survey.hasEntry_iff.mpr ⟨entry, hprogram.entry_mem⟩
  obtain ⟨declared, hfound⟩ : (Survey.of d p declarations).Declared v :=
    Survey.declared_iff.mpr (Survey.mem_declaredIds.mpr hv)
  obtain rfl : declared.id = v := Survey.declaration?_id hfound
  refine ⟨_, Survey.lookup_preview_of_declared hv, ?_⟩
  rw [Survey.table_look_of_declared (Survey.ordered_of d p declarations) hfound,
    Survey.candidates_resolve hentry]
  constructor
  · intro id n hn hrole hbound hport
    have hassigns := hprogram.assigns hn hrole hbound hport
    exact List.mem_map.mpr
      ⟨n, Execution.mem_assignments.mpr hassigns, (node?_eq_some hn).2⟩
  · intro hfeeds
    refine Survey.status_resolve_ne_unknown hentry (hprogram.not_isTainted _) fun n hn => ?_
    exact hfeeds n.id (List.mem_map.mpr ⟨n, Execution.mem_assignments.mpr hn, rfl⟩) n hn.first

/-- Two assignments of `"x"`, one after the other, and a variable node that execution does not come
to. -/
theorem Diagram.preview_of_two_assignments :
    let inlet : Port := { id := "in", dataType := .control }
    let outlet : Port := { id := "out", variableId := some "x" }
    let assign (id : String) : Node :=
      { id, role := .assign, inputs := [inlet], outputs := [outlet] }
    let d : Diagram :=
      { nodes := [{ id := "s", role := .entry }, assign "a", assign "b",
          { id := "y", role := .storage }, { id := "e", role := .exit }]
        edges := [{ id := "1", source := "s", target := "a" },
          { id := "2", source := "a", target := "b" },
          { id := "3", source := "b", target := "e" }] }
    let declarations : List Declaration := [{ id := "x", name := "x" }]
    (d.inspect .empty).ok = true ∧ (∃ declared ∈ declarations, declared.id = "x") ∧
      (Survey.of d .empty declarations).execution.tainted = [] ∧
      ∃ r, (d.preview .empty declarations).lookup "x" = some r ∧ "b" ∈ r.candidates ∧
        r.status ≠ .unknown := by
  intro inlet outlet assign d declarations
  have hok : (d.inspect .empty).ok = true := by cbv
  have hv : ∃ declared ∈ declarations, declared.id = "x" :=
    ⟨{ id := "x", name := "x" }, by simp [declarations], rfl⟩
  obtain ⟨htainted, hpreview⟩ := preview_of_inspect_ok d .empty declarations hok
  obtain ⟨r, hr, hcandidates, hstatus⟩ := hpreview "x" hv
  have hb : d.node? "b" = some (assign "b") := by cbv
  refine ⟨hok, hv, htainted, r, hr, hcandidates "b" (assign "b") hb rfl ?_ ?_, hstatus ?_⟩
  · cbv
  · cbv
  · intro id hid n hn
    simp [valueFeeds, d, Edge.flow]

end Blueprint
