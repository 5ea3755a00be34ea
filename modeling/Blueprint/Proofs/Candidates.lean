import Blueprint.Proofs.ProgramPreview

/-!
# Proofs: the candidates of a variable and the form of its resolution

The candidates of a variable are names whose first node assigns it, in the order in which execution
comes to them. What they produce does not count if one of them is on or behind a control cycle, or
if the variable depends on itself: it is then unknown. A resolution is well formed whatever it is
made from, so the resolutions of a preview are.
-/

namespace Blueprint

open Relation

namespace Diagram

/-- The value of `v` is looked for in that of `w`: `v` is declared, none of its assignments is on or
behind a control cycle, and it reads `w`. -/
structure Depends (d : Diagram) (p : Palette) (declarations : List Declaration)
    (v w : String) : Prop where
  declared : ∃ declared ∈ declarations, declared.id = v
  ordered : ∀ n, d.Assigns n v → ¬ d.Unordered n.id
  reads : d.Reads p v w

/-- What the assignments of a variable produce does not count: one of them is on or behind a control
cycle, or the variable depends on itself. -/
def Stopped (d : Diagram) (p : Palette) (declarations : List Declaration) (v : String) : Prop :=
  (∃ n, d.Assigns n v ∧ d.Unordered n.id) ∨ TransGen (d.Depends p declarations) v v

end Diagram

namespace Survey

variable {d : Diagram} {p : Palette} {declarations : List Declaration}

theorem step_copyLinks_eq : (of d p declarations).copyLinks.Step = d.Depends p declarations := by
  funext v w
  apply propext
  rw [step_copyLinks, mem_declaredIds]
  constructor
  · rintro ⟨hdeclared, hordered, hreads⟩
    exact ⟨hdeclared, fun n hn hun => hordered ⟨n, hn, hun⟩, hreads⟩
  · rintro ⟨hdeclared, hordered, hreads⟩
    refine ⟨hdeclared, ?_, hreads⟩
    rintro ⟨n, hn, hun⟩
    exact hordered n hn hun

theorem mem_entangled_iff_depends {v : String} :
    v ∈ (of d p declarations).entangled ↔ TransGen (d.Depends p declarations) v v := by
  rw [mem_entangled, step_copyLinks_eq]

theorem needs_iff_depends {v w : String} :
    (of d p declarations).Needs v w ↔
      ¬ TransGen (d.Depends p declarations) v v ∧ d.Depends p declarations v w := by
  rw [needs_iff, mem_entangled_iff_depends, step_copyLinks_eq]

theorem stopped_iff {v : String} :
    d.Stopped p declarations v ↔
      (of d p declarations).execution.isTainted v = true ∨ v ∈ (of d p declarations).entangled := by
  rw [of_execution, Execution.isTainted_iff, mem_entangled_iff_depends]
  rfl

section Resolve

variable {look : String → Resolution} {declared : Declaration}

theorem candidates_resolve_eq :
    ((of d p declarations).resolve look declared).candidates =
      ((Execution.of d).assignments declared.id).map (·.id) := by
  rcases resolve_cases (of d p declarations) look declared with
    ⟨hentry, hmade⟩ | ⟨hentry, -⟩ | ⟨hentry, -⟩
  · -- without an entry no candidates are listed, and execution comes to no assignment either
    have hnone : ¬ ∃ n ∈ d.nodes, n.role = .entry := fun h => hentry (hasEntry_iff.mpr h)
    rw [hmade, Execution.assignments_of_no_entry hnone]
    rfl
  · exact candidates_resolve hentry
  · exact candidates_resolve hentry

theorem mem_candidates_resolve {id : String} :
    id ∈ ((of d p declarations).resolve look declared).candidates ↔
      ∃ n, d.Assigns n declared.id ∧ n.id = id := by
  rw [candidates_resolve_eq, List.mem_map]
  simp only [Execution.mem_assignments]

theorem stopped_iff_candidates :
    d.Stopped p declarations declared.id ↔
      (∃ id ∈ ((of d p declarations).resolve look declared).candidates, d.Unordered id) ∨
        TransGen (d.Depends p declarations) declared.id declared.id := by
  unfold Diagram.Stopped
  simp only [mem_candidates_resolve]
  refine or_congr_left ⟨?_, ?_⟩
  · rintro ⟨n, hn, hun⟩
    exact ⟨n.id, ⟨n, hn, rfl⟩, hun⟩
  · rintro ⟨id, ⟨n, hn, rfl⟩, hun⟩
    exact ⟨n, hn, hun⟩

theorem unknown_of_stopped (h : d.Stopped p declarations declared.id) :
    let r := (of d p declarations).resolve look declared
    r.value = declared.default ∧ r.status = .unknown ∧ r.source = none := by
  by_cases hentry : (of d p declarations).hasEntry = true
  · rw [resolve_of_stopped hentry (stopped_iff.mp h)]
    exact ⟨rfl, rfl, rfl⟩
  · rw [resolve_of_no_entry hentry]
    exact ⟨rfl, rfl, rfl⟩

end Resolve

end Survey

/-- **Candidates are exact, and so is what stops a variable.** The candidates of a declared variable
are, in the order of a breadth-first search along control edges from all entries, the names found
whose first node assigns the variable. If one of them is on or behind a control cycle that execution
comes to, or if the variable reads itself through declared variables of which no candidate is, it is
unknown at its default and has no source, whatever else there is. If neither is the case and there
is an entry, it can be unknown only because of a value that an edge brings to a candidate. -/
theorem Diagram.preview_candidates_exact (d : Diagram) (p : Palette)
    (declarations : List Declaration) (v : String)
    (hv : ∃ declared ∈ declarations, declared.id = v) :
    ∃ declared r order, declarations.find? (·.id == v) = some declared ∧
      (d.preview p declarations).lookup v = some r ∧
      d.control.Visits d.entryIds [] order ∧ (∀ id, id ∈ order ↔ d.Reached id) ∧
      r.candidates = order.filter (d.namesAssignment v) ∧
      ((∃ id ∈ r.candidates, d.Unordered id) ∨ TransGen (d.Depends p declarations) v v →
        r.value = declared.default ∧ r.status = .unknown ∧ r.source = none) ∧
      ((∃ n ∈ d.nodes, n.role = .entry) → r.status = .unknown →
        ((∃ id ∈ r.candidates, d.Unordered id) ∨ TransGen (d.Depends p declarations) v v) ∨
        ∃ id ∈ r.candidates, ∃ n, d.node? id = some n ∧ d.valueFeeds n ≠ []) := by
  obtain ⟨declared, hfound, rfl, hlookup⟩ := Survey.exists_resolution d p hv
  have hvisits : d.control.Visits d.entryIds [] (Execution.of d).order :=
    Links.visits_reach d.control d.entryIds
  refine ⟨declared, _, (Execution.of d).order, hfound, hlookup, hvisits,
    fun id => Execution.mem_order, ?_, fun h => ?_, fun hentry hunknown => ?_⟩
  · rw [Survey.candidates_resolve_eq, Execution.map_id_assignments]
  · exact Survey.unknown_of_stopped (Survey.stopped_iff_candidates.mpr h)
  · by_contra hno
    obtain ⟨hfree, hfeeds⟩ := not_or.mp hno
    rw [← Survey.stopped_iff_candidates, Survey.stopped_iff, not_or] at hfree
    refine Survey.status_resolve_ne_unknown (Survey.hasEntry_iff.mpr hentry) hfree.1 ?_ hunknown
    intro n hn
    by_contra hne
    exact hfeeds ⟨n.id, Survey.mem_candidates_resolve.mpr ⟨n, hn, rfl⟩, n, hn.first, hne⟩

/-- The assignment of `"x"` is on a control cycle; `"y"` and `"z"` read each other. -/
theorem Diagram.preview_candidates_exact_of_circles :
    let port (v : String) : Port := { id := "out", variableId := some v }
    let d : Diagram :=
      { nodes := [{ id := "s", role := .entry },
          { id := "a", role := .assign, outputs := [port "x"] },
          { id := "b", role := .operation },
          { id := "c", role := .assign, outputs := [port "y"] },
          { id := "e", role := .assign, outputs := [port "z"] },
          { id := "f", role := .read, outputs := [port "y"] },
          { id := "g", role := .read, outputs := [port "z"] }]
        edges := [{ id := "1", source := "s", target := "c" },
          { id := "2", source := "c", target := "e" },
          { id := "3", source := "s", target := "a" },
          { id := "4", source := "a", target := "b" },
          { id := "5", source := "b", target := "a" },
          { id := "6", source := "g", target := "c", statedFlow := some .data },
          { id := "7", source := "f", target := "e", statedFlow := some .data }] }
    let declarations : List Declaration :=
      [{ id := "x", name := "x" }, { id := "y", name := "y", default := .str "on" },
       { id := "z", name := "z" }]
    ((∃ declared ∈ declarations, declared.id = "x") ∧
      ∃ r, (d.preview .empty declarations).lookup "x" = some r ∧ r.candidates = ["a"] ∧
        d.Unordered "a" ∧ r.value = .null ∧ r.status = .unknown ∧ r.source = none) ∧
    ((∃ declared ∈ declarations, declared.id = "y") ∧
      ∃ r, (d.preview .empty declarations).lookup "y" = some r ∧ r.candidates = ["c"] ∧
        TransGen (d.Depends .empty declarations) "y" "y" ∧ r.value = .str "on" ∧
        r.status = .unknown ∧ r.source = none) := by
  intro port d declarations
  have htainted : (Execution.of d).tainted = ["a", "b"] := by cbv
  have hunordered : d.Unordered "a" := Execution.mem_tainted.mp (by simp [htainted])
  have hentangled : (Survey.of d .empty declarations).entangled = ["z", "y"] := by cbv
  have hdepends : TransGen (d.Depends .empty declarations) "y" "y" :=
    Survey.mem_entangled_iff_depends.mp (by simp [hentangled])
  constructor
  · have hx : ∃ declared ∈ declarations, declared.id = "x" := ⟨_, List.mem_cons_self .., rfl⟩
    obtain ⟨declared, r, order, hfound, hr, -, -, -, hstop, -⟩ :=
      preview_candidates_exact d .empty declarations "x" hx
    have hcandidates : ((d.preview .empty declarations).lookup "x").map (·.candidates) =
        some ["a"] := by cbv
    have hr' : r.candidates = ["a"] := by simpa [hr] using hcandidates
    obtain rfl : _ = declared := Option.some.inj hfound
    exact ⟨hx, r, hr, hr', hunordered, hstop (Or.inl ⟨"a", by simp [hr'], hunordered⟩)⟩
  · have hy : ∃ declared ∈ declarations, declared.id = "y" :=
      ⟨{ id := "y", name := "y", default := .str "on" }, by simp [declarations], rfl⟩
    obtain ⟨declared, r, order, hfound, hr, -, -, -, hstop, -⟩ :=
      preview_candidates_exact d .empty declarations "y" hy
    have hcandidates : ((d.preview .empty declarations).lookup "y").map (·.candidates) =
        some ["c"] := by cbv
    have hr' : r.candidates = ["c"] := by simpa [hr] using hcandidates
    obtain rfl : _ = declared := Option.some.inj hfound
    exact ⟨hy, r, hr, hr', hdepends, hstop (Or.inr hdepends)⟩

/-! ## Well-formed resolutions -/

/-- What holds of every resolution of a variable with the default `own`. -/
structure Resolution.WellFormed (r : Resolution) (own : Value) : Prop where
  nodup : r.candidates.Nodup
  sole : ∀ id, r.source = some id → r.candidates = [id]
  unknown : r.status = .unknown → r.value = own
  unassigned : r.candidates = [] → r.source = none ∧ r.status ≠ .ambiguous ∧ r.value = own
  assigned : ∀ id, r.status = .resolved → r.candidates = [id] → r.source = some id

/-- Without a source only the candidates of a resolution and its default matter. -/
theorem Resolution.WellFormed.of_no_source {r : Resolution} {own : Value}
    (hnodup : r.candidates.Nodup) (hsource : r.source = none)
    (hunknown : r.status = .unknown → r.value = own)
    (hmany : r.status = .unknown ∨ 2 ≤ r.candidates.length) : r.WellFormed own := by
  refine ⟨hnodup, ?_, hunknown, fun hempty => ⟨hsource, ?_⟩, ?_⟩
  · intro id hid
    rw [hsource] at hid
    cases hid
  · rcases hmany with hstatus | hlen
    · exact ⟨by simp [hstatus], hunknown hstatus⟩
    · simp [hempty] at hlen
  · intro id hstatus hone
    rcases hmany with hstatus' | hlen
    · rw [hstatus'] at hstatus
      cases hstatus
    · simp [hone] at hlen

/-- Putting assignments together gives a well-formed resolution if those that are unknown are left
at the default. -/
theorem Produced.wellFormed_combine {default : Value} {ids : List String} {ms : List Produced}
    (hlen : ids.length = ms.length) (hnodup : ids.Nodup)
    (hdefault : ∀ m ∈ ms, m.status = .unknown → m.value = default) :
    (combine default ids ms).WellFormed default := by
  rcases ms with _ | ⟨first, _ | ⟨second, rest⟩⟩
  · obtain rfl : ids = [] := List.length_eq_zero_iff.mp hlen
    constructor <;> simp [combine]
  · obtain ⟨id, rfl⟩ := List.length_eq_one_iff.mp hlen
    have hfirst : first.status = .unknown → first.value = default :=
      hdefault first (List.mem_singleton_self first)
    refine ⟨hnodup, ?_, hfirst, ?_, ?_⟩ <;> simp [combine]
  · have htwo : 2 ≤ ids.length := by simp [hlen]
    rw [combine]
    split
    · exact .of_no_source hnodup rfl (by simp) (Or.inr htwo)
    · split
      · exact .of_no_source hnodup rfl (fun _ => rfl) (Or.inr htwo)
      · exact .of_no_source hnodup rfl (by simp) (Or.inr htwo)

namespace Survey

theorem value_produced_of_unknown {look : String → Resolution} {default : Value} {supply : Supply}
    (h : (supply.produced look default).status = .unknown) :
    (supply.produced look default).value = default := by
  cases supply with
  | several => rfl
  | computed => rfl
  | own entered => cases entered <;> cases h
  | copied w =>
    by_cases hw : (look w).status = .unknown
    · rw [Supply.produced, if_pos hw]
    · rw [Supply.produced, if_neg hw] at h
      exact absurd h hw

/-- Whatever other variables were found to hold, the resolution that is made is well formed. -/
theorem wellFormed_resolve (d : Diagram) (p : Palette) (declarations : List Declaration)
    (look : String → Resolution) (declared : Declaration) :
    ((of d p declarations).resolve look declared).WellFormed declared.default := by
  have hnodup := Execution.nodup_assignments (d := d) declared.id
  rcases resolve_cases (of d p declarations) look declared with
    ⟨-, hmade⟩ | ⟨-, -, hmade⟩ | ⟨-, -, hmade⟩
  · rw [hmade]
    exact .of_no_source List.nodup_nil rfl (fun _ => rfl) (Or.inl rfl)
  · rw [hmade]
    exact .of_no_source hnodup rfl (fun _ => rfl) (Or.inl rfl)
  · rw [hmade]
    refine Produced.wellFormed_combine (by simp) hnodup fun m hm => ?_
    obtain ⟨n, -, rfl⟩ := List.mem_map.mp hm
    exact value_produced_of_unknown

end Survey

/-- **Every resolution of a preview is well formed.** The preview has one resolution for each
declared name and none for any other. Its candidates are distinct, a source is its only candidate,
and an only candidate that resolves the variable is its source. An unknown variable is at the
default of its first declaration, and so is one without candidates, which is never ambiguous. -/
theorem Diagram.preview_wellFormed (d : Diagram) (p : Palette) (declarations : List Declaration) :
    ((d.preview p declarations).map (·.1)).Nodup ∧
    (∀ v, v ∈ (d.preview p declarations).map (·.1) ↔ ∃ declared ∈ declarations, declared.id = v) ∧
    ∀ v r, (v, r) ∈ d.preview p declarations →
      ∃ declared, declarations.find? (·.id == v) = some declared ∧
        r.WellFormed declared.default := by
  have hnames : (d.preview p declarations).map (·.1) = Survey.declaredIds declarations := by
    unfold preview
    rw [List.map_map]
    exact List.map_id' _
  refine ⟨?_, fun v => ?_, ?_⟩
  · rw [hnames]
    exact Links.nodup_eraseDups _
  · rw [hnames, Survey.mem_declaredIds]
  · intro v r hmem
    obtain ⟨u, hu, heq⟩ := List.mem_map.mp hmem
    obtain ⟨rfl, rfl⟩ := Prod.mk.inj heq
    have hu' := Survey.mem_declaredIds.mp hu
    obtain ⟨declared, hfound, -, hlookup⟩ := Survey.exists_resolution d p hu'
    rw [Survey.lookup_preview_of_declared hu'] at hlookup
    refine ⟨declared, hfound, ?_⟩
    rw [Option.some.inj hlookup]
    exact Survey.wellFormed_resolve d p declarations _ declared

/-- `"x"` is declared twice and copies `"y"` at its only assignment. -/
theorem Diagram.preview_wellFormed_of_repeated_declaration :
    let port (v : String) : Port := { id := "out", variableId := some v }
    let d : Diagram :=
      { nodes := [{ id := "s", role := .entry },
          { id := "a", role := .assign, outputs := [port "x"] },
          { id := "b", role := .read, outputs := [port "y"] }]
        edges := [{ id := "1", source := "s", target := "a" },
          { id := "2", source := "b", target := "a", statedFlow := some .data }] }
    let declarations : List Declaration :=
      [{ id := "x", name := "x", default := .str "off" },
       { id := "y", name := "y", default := .str "on" }, { id := "x", name := "x" }]
    let r : Resolution := ⟨.str "on", .resolved, some "a", ["a"]⟩
    (d.preview .empty declarations).map (·.1) = ["x", "y"] ∧
      ("x", r) ∈ d.preview .empty declarations ∧ r.WellFormed (.str "off") := by
  intro port d declarations r
  have hpreview : d.preview .empty declarations =
      [("x", r), ("y", ⟨.str "on", .resolved, none, []⟩)] := by cbv
  have hmem : ("x", r) ∈ d.preview .empty declarations := by simp [hpreview]
  obtain ⟨-, -, hall⟩ := preview_wellFormed d .empty declarations
  obtain ⟨declared, hfound, hr⟩ := hall "x" r hmem
  obtain rfl : _ = declared := Option.some.inj hfound
  exact ⟨by simp [hpreview], hmem, hr⟩

end Blueprint
