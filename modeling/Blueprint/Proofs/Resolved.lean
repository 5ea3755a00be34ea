import Blueprint.Proofs.Settle

/-!
# Proofs: when a variable is resolved

A variable is resolved if it is determined, and so are all that it reads, directly or through
others: each of them is declared, its assignments are in order, each of these takes a value that can
be followed, their values agree, and no variable reads itself. The step from a variable to those it
reads comes from the equations of the resolutions; the rest is an induction along the readings.
-/

namespace Blueprint

open Relation

/-! ## Putting assignments together -/

namespace Produced

/-- To compare each value with the first one is to compare any two of them. -/
theorem disagree_eq_false_iff {values : List Value} :
    disagree values = false ↔ values.Pairwise fun a b => a.same b = true := by
  cases values with
  | nil => simp [disagree]
  | cons first rest =>
    unfold disagree
    rw [List.any_eq_false, List.pairwise_cons]
    simp only [Bool.not_eq_true', Bool.not_eq_false]
    constructor
    · intro h
      refine ⟨fun v hv => Value.same_symm (h v hv), ?_⟩
      refine List.pairwise_of_forall_mem_list fun a ha b hb => ?_
      exact Value.same_trans (h a ha) (Value.same_symm (h b hb))
    · intro h v hv
      exact Value.same_symm (h.1 v hv)

/-- Where every assignment is sure, all their values are compared. -/
theorem disagree_settled_iff {ms : List Produced} (h : ∀ m ∈ ms, m.status = .resolved) :
    disagree (ms.filterMap settled?) = false ↔
      ms.Pairwise fun a b => a.value.same b.value = true := by
  have hvalues : ms.filterMap settled? = ms.map (·.value) := by
    rw [← List.filterMap_eq_map]
    refine List.filterMap_congr fun m hm => ?_
    simp [settled?, h m hm]
  rw [hvalues, disagree_eq_false_iff, List.pairwise_map]

theorem forall_resolved_iff {ms : List Produced} :
    (∀ m ∈ ms, m.status = .resolved) ↔
      ms.any (·.status = .ambiguous) = false ∧ ms.any (·.status = .unknown) = false := by
  rw [List.any_eq_false, List.any_eq_false, ← forall₂_and]
  refine forall₂_congr fun m _ => ?_
  cases m.status <;> simp

/-- Assignments are resolved together if each of them is and no two values differ. -/
theorem status_combine (default : Value) (candidates : List String) (ms : List Produced) :
    (combine default candidates ms).status = .resolved ↔
      (∀ m ∈ ms, m.status = .resolved) ∧ ms.Pairwise fun a b => a.value.same b.value = true := by
  match ms with
  | [] => simp [combine]
  | [only] => simp [combine]
  | first :: second :: rest =>
    rw [combine]
    generalize first :: second :: rest = all
    constructor
    · intro h
      split at h
      · cases h
      · split at h
        · cases h
        · next hno hunknown =>
          rw [Bool.not_eq_true, Bool.or_eq_false_iff] at hno
          have hall := forall_resolved_iff.mpr ⟨hno.2, by simpa using hunknown⟩
          exact ⟨hall, (disagree_settled_iff hall).mp hno.1⟩
    · rintro ⟨hall, hagree⟩
      obtain ⟨hambiguous, hunknown⟩ := forall_resolved_iff.mp hall
      simp [(disagree_settled_iff hall).mpr hagree, hambiguous, hunknown]

end Produced

/-! ## Resolved variables -/

namespace Diagram

/-- The preview finds the variable resolved. -/
def Resolved (d : Diagram) (p : Palette) (declarations : List Declaration) (v : String) : Prop :=
  ∃ r, (d.preview p declarations).lookup v = some r ∧ r.status = .resolved

/-- An assignment `n` of the variable `u` produces a value: that of the variable it reads, else the
one entered by hand, else the default of `u`. -/
inductive Produces (d : Diagram) (p : Palette) (declarations : List Declaration) (u : String)
    (n : Node) : Value → Prop
  /-- The value of the variable read. -/
  | read {e : Edge} {w : String} {r : Resolution} (feed : d.valueFeeds n = [e])
    (carries : d.Carries p e w) (found : (d.preview p declarations).lookup w = some r) :
    Produces d p declarations u n r.value
  /-- The value entered by hand. -/
  | entered {x : Value} (feed : d.valueFeeds n = []) (override : n.override? = some x) :
    Produces d p declarations u n x
  /-- The default of the variable, by its first declaration. -/
  | initial {declared : Declaration} (feed : d.valueFeeds n = []) (override : n.override? = none)
    (first : declarations.find? (·.id == u) = some declared) :
    Produces d p declarations u n declared.default

/-- What determines the value of a variable, given those of the variables it reads: it is declared,
its assignments are in order, each of them takes at most one value and that of a variable, and any
two of them produce equal values. -/
structure Determined (d : Diagram) (p : Palette) (declarations : List Declaration)
    (u : String) : Prop where
  declared : ∃ declared ∈ declarations, declared.id = u
  ordered : ∀ n, d.Assigns n u → ¬ d.Unordered n.id
  fed : ∀ n, d.Assigns n u →
    d.valueFeeds n = [] ∨ ∃ e w, d.valueFeeds n = [e] ∧ d.Carries p e w
  agree : ∀ n m x y, d.Assigns n u → d.Assigns m u → n ≠ m →
    d.Produces p declarations u n x → d.Produces p declarations u m y → x.same y = true

end Diagram

/-! ## The resolution of one variable -/

namespace Survey

variable {d : Diagram} {p : Palette} {declarations : List Declaration} {u v : String}

theorem mem_declaredIds : v ∈ declaredIds declarations ↔ ∃ c ∈ declarations, c.id = v := by
  unfold declaredIds
  rw [List.mem_eraseDups, List.mem_map]

/-- The preview holds the resolutions of the table, for declared variables. -/
theorem lookup_preview (v : String) :
    (d.preview p declarations).lookup v =
      if v ∈ declaredIds declarations then some ((of d p declarations).table.look v) else none :=
  Links.lookup_map _ _ _

theorem lookup_preview_of_declared (hv : ∃ declared ∈ declarations, declared.id = v) :
    (d.preview p declarations).lookup v = some ((of d p declarations).table.look v) := by
  rw [lookup_preview, if_pos (mem_declaredIds.mpr hv)]

theorem lookup_preview_eq_some {r : Resolution} :
    (d.preview p declarations).lookup v = some r ↔
      (∃ declared ∈ declarations, declared.id = v) ∧ (of d p declarations).table.look v = r := by
  rw [lookup_preview, ← mem_declaredIds]
  split <;> simp [*]

/-- The preview gives a declared variable the resolution that is made from its first declaration. -/
theorem exists_resolution (d : Diagram) (p : Palette)
    (hv : ∃ declared ∈ declarations, declared.id = v) :
    ∃ declared, declarations.find? (·.id == v) = some declared ∧ declared.id = v ∧
      (d.preview p declarations).lookup v =
        some ((of d p declarations).resolve (of d p declarations).table.look declared) := by
  obtain ⟨declared, hfound⟩ : (of d p declarations).Declared v :=
    declared_iff.mpr (mem_declaredIds.mpr hv)
  refine ⟨declared, hfound, declaration?_id hfound, ?_⟩
  rw [lookup_preview_of_declared hv, table_look_of_declared (ordered_of d p declarations) hfound]

/-- What is found out about a variable at all stands in the preview. -/
theorem lookup_preview_of_known (h : ((of d p declarations).table.look v).status ≠ .unknown) :
    (d.preview p declarations).lookup v = some ((of d p declarations).table.look v) := by
  by_cases hv : v ∈ declaredIds declarations
  · rw [lookup_preview, if_pos hv]
  · have hnot : ¬ (of d p declarations).Declared v := fun hd => hv (declared_iff.mp hd)
    rw [table_look_of_undeclared (ordered_of d p declarations) hnot] at h
    exact absurd rfl h

theorem resolved_iff_look :
    d.Resolved p declarations v ↔ ((of d p declarations).table.look v).status = .resolved := by
  unfold Diagram.Resolved
  rw [lookup_preview]
  by_cases hv : v ∈ declaredIds declarations
  · simp [hv]
  · have hnot : ¬ (of d p declarations).Declared v := fun h => hv (declared_iff.mp h)
    rw [table_look_of_undeclared (ordered_of d p declarations) hnot]
    simp [hv, Resolution.undeclared]

/-- An assignment is sure if it takes no value from elsewhere, or that of a variable that is. -/
theorem status_produced (look : String → Resolution) (default : Value) (n : Node) :
    (((Execution.of d).supply p n).produced look default).status = .resolved ↔
      d.valueFeeds n = [] ∨
        ∃ e w, d.valueFeeds n = [e] ∧ d.Carries p e w ∧ (look w).status = .resolved := by
  rcases Execution.supply_cases (d := d) p n with ⟨hf, hs⟩ | ⟨e, w, hf, hc, hs⟩ | ⟨⟨hne, hno⟩, hs⟩
  · rw [hs]
    cases n.override? <;> simp [Supply.produced, hf]
  · have hstatus : ((Supply.copied w).produced look default).status = (look w).status := by
      by_cases h : (look w).status = .unknown <;> simp [Supply.produced, h]
    rw [hs, hstatus, hf]
    constructor
    · intro h
      exact Or.inr ⟨e, w, rfl, hc, h⟩
    · rintro (h | ⟨e', w', he, hc', h⟩)
      · cases h
      · cases he
        exact hc.unique hc' ▸ h
  · constructor
    · intro h
      rcases hs with hs | hs <;> rw [hs] at h <;> cases h
    · rintro (h | ⟨e, w, hf, hc, -⟩)
      · exact absurd h hne
      · exact absurd ⟨e, w, hf, hc⟩ hno

/-- What a sure assignment produces. -/
theorem produces_iff {declared : Declaration} (hd : declarations.find? (·.id == u) = some declared)
    {n : Node} {x : Value}
    (h : (((Execution.of d).supply p n).produced (of d p declarations).table.look
      declared.default).status = .resolved) :
    d.Produces p declarations u n x ↔
      x = (((Execution.of d).supply p n).produced (of d p declarations).table.look
        declared.default).value := by
  rcases (status_produced _ _ n).mp h with hf | ⟨e, w, hf, hc, hw⟩
  · rw [Execution.supply_eq_own hf]
    constructor
    · rintro (⟨hf', -, -⟩ | ⟨-, ho⟩ | ⟨-, ho, hd'⟩)
      · rw [hf] at hf'
        cases hf'
      · rw [ho, Supply.produced]
      · rw [hd] at hd'
        cases hd'
        rw [ho, Supply.produced]
    · cases ho : n.override? with
      | none =>
        rintro rfl
        exact .initial hf ho hd
      | some y =>
        rintro rfl
        exact .entered hf ho
  · have hs := Execution.supply_eq_copied.mpr ⟨e, hf, hc⟩
    have hfound : (d.preview p declarations).lookup w =
        some ((of d p declarations).table.look w) :=
      lookup_preview_of_known (by simp [hw])
    rw [hs, Supply.produced, if_neg (by simp [hw])]
    constructor
    · rintro (⟨hf', hc', hr⟩ | ⟨hf', -⟩ | ⟨hf', -, -⟩)
      · rw [hf] at hf'
        cases hf'
        rw [← hc.unique hc', hfound] at hr
        cases hr
        rfl
      all_goals
        rw [hf] at hf'
        cases hf'
    · rintro rfl
      exact .read hf hc hfound

/-- Before its assignments are looked at, a resolution can fail for three reasons. -/
theorem status_resolve (s : Survey) (look : String → Resolution) (declared : Declaration) :
    (s.resolve look declared).status = .resolved ↔
      s.hasEntry = true ∧ ¬ s.execution.isTainted declared.id = true ∧
      declared.id ∉ s.entangled ∧
      let made n := (s.execution.supply s.palette n).produced look declared.default
      (∀ n ∈ s.execution.assignments declared.id, (made n).status = .resolved) ∧
      (s.execution.assignments declared.id).Pairwise fun n m =>
        (made n).value.same (made m).value = true := by
  unfold resolve
  cases s.hasEntry with
  | false => simp
  | true =>
    by_cases htainted : s.execution.isTainted declared.id = true
    · simp [htainted]
    by_cases hentangled : declared.id ∈ s.entangled
    · simp [hentangled]
    simp [htainted, hentangled, Produced.status_combine, List.pairwise_map, produced_eq]

/-- All assignments of a variable are sure if each takes a value that can be followed, and the
variables read are resolved. -/
theorem forall_status_produced (default : Value) :
    (∀ n, d.Assigns n u → (((Execution.of d).supply p n).produced
      (of d p declarations).table.look default).status = .resolved) ↔
      (∀ n, d.Assigns n u →
        d.valueFeeds n = [] ∨ ∃ e w, d.valueFeeds n = [e] ∧ d.Carries p e w) ∧
      ∀ w, d.Reads p u w → d.Resolved p declarations w := by
  constructor
  · intro h
    refine ⟨fun n hn => ?_, ?_⟩
    · rcases (status_produced _ _ n).mp (h n hn) with hf | ⟨e, w, hf, hc, -⟩
      · exact Or.inl hf
      · exact Or.inr ⟨e, w, hf, hc⟩
    · rintro w ⟨n, e, hn, hf, hc⟩
      rcases (status_produced _ _ n).mp (h n hn) with hf' | ⟨e', w', hf', hc', hw⟩
      · rw [hf] at hf'
        cases hf'
      · rw [hf] at hf'
        cases hf'
        rw [hc.unique hc', resolved_iff_look]
        exact hw
  · rintro ⟨hfed, hreads⟩ n hn
    rw [status_produced]
    rcases hfed n hn with hf | ⟨e, w, hf, hc⟩
    · exact Or.inl hf
    · exact Or.inr ⟨e, w, hf, hc, resolved_iff_look.mp (hreads w ⟨n, e, hn, hf, hc⟩)⟩

/-- A variable is resolved if there is an entry, the variable is determined and not entangled, and
all that it reads is resolved. -/
theorem resolved_iff_reads :
    d.Resolved p declarations u ↔
      (∃ n ∈ d.nodes, n.role = .entry) ∧ d.Determined p declarations u ∧
      u ∉ (of d p declarations).entangled ∧
      ∀ w, d.Reads p u w → d.Resolved p declarations w := by
  by_cases hu : (of d p declarations).Declared u
  · obtain ⟨declared, hd⟩ := hu
    obtain rfl : declared.id = u := declaration?_id hd
    rw [resolved_iff_look, table_look_of_declared (ordered_of d p declarations) hd,
      status_resolve, hasEntry_iff, of_execution, of_palette, Execution.isTainted_iff]
    simp only [Execution.mem_assignments, Execution.pairwise_same_assignments]
    constructor
    · rintro ⟨hentry, hordered, hfree, hstatus, hagree⟩
      obtain ⟨hfed, hreads⟩ := (forall_status_produced _).mp hstatus
      refine ⟨hentry, ⟨?_, ?_, hfed, ?_⟩, hfree, hreads⟩
      · exact mem_declaredIds.mp (declared_iff.mp ⟨declared, hd⟩)
      · exact fun n hn hun => hordered ⟨n, hn, hun⟩
      · intro n m x y hn hm hne hx hy
        rw [(produces_iff hd (hstatus n hn)).mp hx, (produces_iff hd (hstatus m hm)).mp hy]
        exact hagree n m hn hm hne
    · rintro ⟨hentry, hdet, hfree, hreads⟩
      have hstatus := (forall_status_produced declared.default).mpr ⟨hdet.fed, hreads⟩
      refine ⟨hentry, ?_, hfree, hstatus, ?_⟩
      · rintro ⟨n, hn, hun⟩
        exact hdet.ordered n hn hun
      · intro n m hn hm hne
        exact hdet.agree n m _ _ hn hm hne ((produces_iff hd (hstatus n hn)).mpr rfl)
          ((produces_iff hd (hstatus m hm)).mpr rfl)
  · rw [resolved_iff_look, table_look_of_undeclared (ordered_of d p declarations) hu]
    constructor
    · intro h
      cases h
    · rintro ⟨-, hdet, -⟩
      exact absurd (declared_iff.mpr (mem_declaredIds.mpr hdet.declared)) hu

end Survey

/-! ## All that a variable reads -/

namespace Diagram

variable {d : Diagram} {p : Palette} {declarations : List Declaration} {u v : String}

/-- All that a resolved variable reads, directly or through others, is resolved. -/
theorem Resolved.of_walk (h : d.Resolved p declarations v)
    (hwalk : ReflTransGen (d.Reads p) v u) : d.Resolved p declarations u := by
  induction hwalk with
  | refl => exact h
  | tail _ hstep ih => exact (Survey.resolved_iff_reads.mp ih).2.2.2 _ hstep

theorem Determined.step (h : d.Determined p declarations u) {w : String} (hw : d.Reads p u w) :
    (Survey.of d p declarations).copyLinks.Step u w := by
  refine Survey.step_copyLinks.mpr ⟨Survey.mem_declaredIds.mpr h.declared, ?_, hw⟩
  rintro ⟨n, hn, hun⟩
  exact h.ordered n hn hun

/-- Among determined variables the links between variables leave no reading out. -/
theorem walk_copyLinks (h : ∀ w, ReflTransGen (d.Reads p) v w → d.Determined p declarations w)
    (hwalk : TransGen (d.Reads p) v u) :
    TransGen (Survey.of d p declarations).copyLinks.Step v u := by
  induction hwalk with
  | single hstep => exact .single ((h v .refl).step hstep)
  | tail hvw hstep ih => exact ih.tail ((h _ hvw.to_reflTransGen).step hstep)

/-- A resolved variable does not read itself. -/
theorem Resolved.acyclic (h : d.Resolved p declarations v) : ¬ TransGen (d.Reads p) v v := by
  intro hloop
  have hdet : ∀ w, ReflTransGen (d.Reads p) v w → d.Determined p declarations w :=
    fun w hw => (Survey.resolved_iff_reads.mp (h.of_walk hw)).2.1
  have hfree := (Survey.resolved_iff_reads.mp h).2.2.1
  exact hfree (Survey.mem_entangled.mpr (walk_copyLinks hdet hloop))

/-- The converse of `Resolved.of_walk`, by induction along the needs. -/
theorem resolved_of_walk (hentry : ∃ n ∈ d.nodes, n.role = .entry)
    (h : ∀ u, ReflTransGen (d.Reads p) v u →
      d.Determined p declarations u ∧ ¬ TransGen (d.Reads p) u u) :
    d.Resolved p declarations v := by
  induction v using (Survey.needs_wellFounded d p declarations).induction with
  | _ v ih =>
    obtain ⟨hdet, hacyclic⟩ := h v .refl
    -- the links between variables are readings, so an entangled variable reads itself
    have hfree : v ∉ (Survey.of d p declarations).entangled := by
      intro hmem
      apply hacyclic
      exact TransGen.mono (fun _ _ hs => (Survey.step_copyLinks.mp hs).2.2) _ _
        (Survey.mem_entangled.mp hmem)
    refine Survey.resolved_iff_reads.mpr ⟨hentry, hdet, hfree, fun w hw => ?_⟩
    exact ih w (Survey.needs_iff.mpr ⟨hfree, hdet.step hw⟩) fun u hu => h u (.head hw hu)

/-- Every declared variable has a resolution. It is resolved if and only if there is an entry, and
each variable of those it reads, directly or through others, itself included, is determined and
does not read itself. -/
theorem preview_resolved_iff (d : Diagram) (p : Palette) (declarations : List Declaration)
    (v : String) (hv : ∃ declared ∈ declarations, declared.id = v) :
    ∃ r, (d.preview p declarations).lookup v = some r ∧
      (r.status = .resolved ↔
        (∃ n ∈ d.nodes, n.role = .entry) ∧
        ∀ u, ReflTransGen (d.Reads p) v u →
          d.Determined p declarations u ∧ ¬ TransGen (d.Reads p) u u) := by
  refine ⟨_, by rw [Survey.lookup_preview, if_pos (Survey.mem_declaredIds.mpr hv)], ?_⟩
  rw [← Survey.resolved_iff_look]
  constructor
  · intro h
    refine ⟨(Survey.resolved_iff_reads.mp h).1, fun u hu => ?_⟩
    have hu' := h.of_walk hu
    exact ⟨(Survey.resolved_iff_reads.mp hu').2.1, hu'.acyclic⟩
  · rintro ⟨hentry, h⟩
    exact resolved_of_walk hentry h

/-- One assignment of `"x"` produces its default and another one the equal default of `"y"`, which it
reads. -/
theorem preview_resolved_of_equal_values :
    let port (v : String) : Port := { id := "out", variableId := some v }
    let d : Diagram :=
      { nodes := [{ id := "s", role := .entry },
          { id := "a", role := .assign, outputs := [port "x"] },
          { id := "b", role := .assign, outputs := [port "x"] },
          { id := "c", role := .read, outputs := [port "y"] }]
        edges := [{ id := "1", source := "s", target := "a" },
          { id := "2", source := "a", target := "b" },
          { id := "3", source := "c", target := "b", statedFlow := some .data }] }
    let declarations : List Declaration :=
      [{ id := "x", name := "x", default := .str "on" },
       { id := "y", name := "y", default := .str "on" }]
    (∃ declared ∈ declarations, declared.id = "x") ∧
      ((d.preview .empty declarations).lookup "x").map (·.status) = some .resolved ∧
      d.Reads .empty "x" "y" ∧
      d.Determined .empty declarations "x" ∧ d.Determined .empty declarations "y" := by
  intro port d declarations
  have hv : ∃ declared ∈ declarations, declared.id = "x" :=
    ⟨{ id := "x", name := "x", default := .str "on" }, by simp [declarations], rfl⟩
  have hstatus : ((d.preview .empty declarations).lookup "x").map (·.status) = some .resolved := by
    cbv
  have hcopies : (Execution.of d).copies .empty "x" = ["y"] := by cbv
  have hreads : d.Reads .empty "x" "y" := Execution.mem_copies.mp (by simp [hcopies])
  obtain ⟨r, hr, hiff⟩ := preview_resolved_iff d .empty declarations "x" hv
  have hresolved : r.status = .resolved := by simpa [hr] using hstatus
  obtain ⟨-, hdet⟩ := hiff.mp hresolved
  exact ⟨hv, hstatus, hreads, (hdet "x" .refl).1, (hdet "y" (.single hreads)).1⟩

end Diagram

end Blueprint
