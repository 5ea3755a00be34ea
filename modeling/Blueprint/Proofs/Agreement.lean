import Blueprint.Proofs.Reordered
import Blueprint.Proofs.Resolved

/-!
# Proofs: what a resolution depends on

Two surveys agree at a variable if they see the same assignments of it, supplied in the same way,
and stop at it for the same reasons. Where they agree at all that a resolution needs, and the
defaults are the same, they find the same. Applied to two lists of declarations for one diagram:
declarations of other variables come in through the search for circles only, and a circle through a
variable lies within what that variable reads.
-/

namespace Blueprint

open Relation

namespace Survey

/-- Two surveys make the same of a variable, given its declaration and what it copies. -/
structure AgreesAt (s s' : Survey) (v : String) : Prop where
  entry : s.hasEntry = s'.hasEntry
  assignments : s.execution.assignments v = s'.execution.assignments v
  tainted : s.execution.isTainted v = s'.execution.isTainted v
  entangled : v ∈ s.entangled ↔ v ∈ s'.entangled
  supply : ∀ n ∈ s.execution.assignments v,
    s.execution.supply s.palette n = s'.execution.supply s'.palette n

theorem AgreesAt.resolve_eq {s s' : Survey} {declared declared' : Declaration}
    (h : s.AgreesAt s' declared.id) (hid : declared.id = declared'.id)
    (hdefault : declared.default = declared'.default) (look : String → Resolution) :
    s.resolve look declared = s'.resolve look declared' := by
  have hproduced : (s.execution.assignments declared.id).map (s.produced look declared.default) =
      (s.execution.assignments declared.id).map (s'.produced look declared.default) := by
    refine List.map_congr_left fun n hn => ?_
    rw [produced_eq, produced_eq, h.supply n hn]
  have hentangled : s.entangled.contains declared.id = s'.entangled.contains declared.id := by
    rw [Bool.eq_iff_iff, List.contains_iff_mem, List.contains_iff_mem, h.entangled]
  unfold resolve
  dsimp only
  rw [hproduced, h.entry, h.assignments, h.tainted, hentangled, hid, hdefault]

/-- Surveys that agree at each variable of a set closed under needs find the same for these. -/
theorem look_eq_of_agreesAt {s s' : Survey} (ho : s.Ordered) (ho' : s'.Ordered)
    (hwf : WellFounded fun w v => s.Needs v w) {P : String → Prop}
    (hP : ∀ v w, P v → s.Needs v w → P w) (hagree : ∀ v, P v → s.AgreesAt s' v)
    (hdefault : ∀ v, P v →
      (s.declaration? v).map (·.default) = (s'.declaration? v).map (·.default))
    {v : String} (hv : P v) : s.table.look v = s'.table.look v := by
  refine table_look_related (R := Eq) ho ho' hwf hP (fun v hv => ?_) rfl ?_ hv
  · have hsome := congrArg Option.isSome (hdefault v hv)
    rw [Option.isSome_map, Option.isSome_map] at hsome
    unfold Declared
    rw [← Option.isSome_iff_exists, ← Option.isSome_iff_exists, hsome]
  · intro v declared declared' hv hfound hfound' hlook
    have hvalue := hdefault v hv
    rw [hfound, hfound'] at hvalue
    have hid : declared.id = v := declaration?_id hfound
    have hid' : declared'.id = v := declaration?_id hfound'
    have hstep := (hid ▸ hagree v hv : s.AgreesAt s' declared.id).resolve_eq (hid.trans hid'.symm)
      (Option.some.inj hvalue) s'.table.look
    refine (ho.resolve_congr declared _ _ (hid ▸ ⟨declared, hfound⟩) fun w hw => ?_).trans hstep
    exact hlook w (hid ▸ hw)

end Survey

/-- The preview depends on what execution assigns and where the values come from. -/
theorem Diagram.preview_congr {d d' : Diagram} {p p' : Palette} {declarations : List Declaration}
    (hentry : d.entryIds.isEmpty = d'.entryIds.isEmpty)
    (hassignments : ∀ v, (Execution.of d).assignments v = (Execution.of d').assignments v)
    (htainted : ∀ v, (Execution.of d).isTainted v = (Execution.of d').isTainted v)
    (hsupply : ∀ v, ∀ n ∈ (Execution.of d).assignments v,
      (Execution.of d).supply p n = (Execution.of d').supply p' n) :
    d.preview p declarations = d'.preview p' declarations := by
  have hcopies : ∀ v, (Execution.of d).copies p v = (Execution.of d').copies p' v := by
    intro v
    rw [Execution.copies_eq, Execution.copies_eq, ← hassignments]
    exact List.filterMap_congr fun n hn => by rw [hsupply v n hn]
  have hlinks : Survey.linksOf (Execution.of d) p declarations =
      Survey.linksOf (Execution.of d') p' declarations := by
    unfold Survey.linksOf
    simp only [htainted, hcopies]
  have hentangled : (Survey.of d p declarations).entangled =
      (Survey.of d' p' declarations).entangled := by
    show Links.looping (Survey.linksOf (Execution.of d) p declarations) _ = _
    rw [hlinks]
    rfl
  have hagree : ∀ v, (Survey.of d p declarations).AgreesAt (Survey.of d' p' declarations) v :=
    fun v => ⟨congrArg not hentry, hassignments v, htainted v, by rw [hentangled], hsupply v⟩
  unfold preview
  refine List.map_congr_left fun v _ => ?_
  rw [Survey.look_eq_of_agreesAt (P := fun _ => True) (Survey.ordered_of d p declarations)
    (Survey.ordered_of d' p' declarations) (Survey.needs_wellFounded d p declarations)
    (fun _ _ _ _ => trivial) (fun v _ => hagree v) (fun _ _ => rfl) trivial]

/-! ## Declarations -/

/-- The default of a variable by its first declaration, if there is one. -/
def defaultIn? (declarations : List Declaration) (v : String) : Option Value :=
  (declarations.find? (·.id == v)).map (·.default)

/-- A variable reads another one in order: execution comes to an assignment of it that is neither on
nor behind a cycle, and that has one value to take, which comes from the other variable. -/
def Diagram.ReadsInOrder (d : Diagram) (p : Palette) (v w : String) : Prop :=
  ∃ n e, d.Assigns n v ∧ ¬ d.Unordered n.id ∧ d.valueFeeds n = [e] ∧ d.Carries p e w

theorem Diagram.ReadsInOrder.reads {d : Diagram} {p : Palette} {v w : String}
    (h : d.ReadsInOrder p v w) : d.Reads p v w := by
  obtain ⟨n, e, hn, -, hfeed, hcarries⟩ := h
  exact ⟨n, e, hn, hfeed, hcarries⟩

namespace Survey

variable {d : Diagram} {p : Palette} {declarations declarations' : List Declaration}
  {u v w : String}

theorem mem_declaredIds_iff_defaultIn? :
    v ∈ declaredIds declarations ↔ (defaultIn? declarations v).isSome = true := by
  unfold defaultIn?
  rw [mem_declaredIds, Option.isSome_map, List.find?_isSome]
  simp

theorem readsInOrder_of_step (h : (of d p declarations).copyLinks.Step v w) :
    d.ReadsInOrder p v w := by
  obtain ⟨-, hordered, n, e, hn, hfeed, hcarries⟩ := step_copyLinks.mp h
  exact ⟨n, e, hn, fun hun => hordered ⟨n, hn, hun⟩, hfeed, hcarries⟩

/-- The defaults are the same for a variable and all that it reads. -/
def SameDefaults (d : Diagram) (p : Palette) (declarations declarations' : List Declaration)
    (v : String) : Prop :=
  ∀ u, ReflTransGen (d.ReadsInOrder p) v u → defaultIn? declarations u = defaultIn? declarations' u

namespace SameDefaults

theorem symm (h : SameDefaults d p declarations declarations' v) :
    SameDefaults d p declarations' declarations v :=
  fun u hu => (h u hu).symm

theorem declaredIds_iff (h : SameDefaults d p declarations declarations' v)
    (hu : ReflTransGen (d.ReadsInOrder p) v u) :
    u ∈ declaredIds declarations ↔ u ∈ declaredIds declarations' := by
  rw [mem_declaredIds_iff_defaultIn?, mem_declaredIds_iff_defaultIn?, h u hu]

theorem step (h : SameDefaults d p declarations declarations' v)
    (hu : ReflTransGen (d.ReadsInOrder p) v u) (hstep : (of d p declarations).copyLinks.Step u w) :
    (of d p declarations').copyLinks.Step u w := by
  obtain ⟨hmem, hrest⟩ := step_copyLinks.mp hstep
  exact step_copyLinks.mpr ⟨(h.declaredIds_iff hu).mp hmem, hrest⟩

/-- A walk along the links of one survey does not leave what `v` reads, so it is a walk of the
other. -/
theorem walk (h : SameDefaults d p declarations declarations' v)
    (hu : ReflTransGen (d.ReadsInOrder p) v u)
    (hwalk : TransGen (of d p declarations).copyLinks.Step u w) :
    ReflTransGen (d.ReadsInOrder p) v w ∧ TransGen (of d p declarations').copyLinks.Step u w := by
  induction hwalk with
  | single hstep => exact ⟨hu.tail (readsInOrder_of_step hstep), .single (h.step hu hstep)⟩
  | tail _ hstep ih =>
    obtain ⟨hread, hwalk'⟩ := ih
    exact ⟨hread.tail (readsInOrder_of_step hstep), hwalk'.tail (h.step hread hstep)⟩

theorem entangled_iff (h : SameDefaults d p declarations declarations' v)
    (hu : ReflTransGen (d.ReadsInOrder p) v u) :
    u ∈ (of d p declarations).entangled ↔ u ∈ (of d p declarations').entangled := by
  rw [mem_entangled, mem_entangled]
  exact ⟨fun hloop => (h.walk hu hloop).2, fun hloop => (h.symm.walk hu hloop).2⟩

theorem look_eq (h : SameDefaults d p declarations declarations' v) :
    (of d p declarations).table.look v = (of d p declarations').table.look v := by
  refine look_eq_of_agreesAt (P := ReflTransGen (d.ReadsInOrder p) v) (ordered_of d p declarations)
    (ordered_of d p declarations') (needs_wellFounded d p declarations) ?_ ?_ h .refl
  · intro u w hu hneeds
    exact hu.tail (readsInOrder_of_step (needs_iff.mp hneeds).2)
  · -- the diagram is the same, so all but the circles is
    intro u hu
    exact ⟨rfl, rfl, rfl, h.entangled_iff hu, fun _ _ => rfl⟩

theorem lookup_eq (h : SameDefaults d p declarations declarations' v) :
    (d.preview p declarations).lookup v = (d.preview p declarations').lookup v := by
  rw [lookup_preview, lookup_preview, h.look_eq]
  simp only [h.declaredIds_iff .refl]

end SameDefaults

/-- Declarations in between do not count if they repeat an earlier name or declare another one. -/
theorem defaultIn?_of_insert {before more after : List Declaration}
    (h : ∀ c ∈ more, (∃ c' ∈ before, c'.id = c.id) ∨ c.id ≠ u) :
    defaultIn? (before ++ more ++ after) u = defaultIn? (before ++ after) u := by
  unfold defaultIn?
  rw [List.append_assoc, List.find?_append, List.find?_append, List.find?_append]
  cases hbefore : before.find? (·.id == u) with
  | some c => simp
  | none =>
    have hmore : more.find? (·.id == u) = none := by
      rw [List.find?_eq_none] at hbefore ⊢
      intro c hc
      rcases h c hc with ⟨c', hc', hid⟩ | hne
      · rw [← hid]
        exact hbefore c' hc'
      · simpa using hne
    rw [hmore]
    simp

end Survey

/-- **A resolution depends on what the variable reads, and on nothing else that is declared.** If
two lists declare a variable and give the same defaults to it and to all that it reads, directly or
through others, its resolution is the same. So it stays the same if declarations of distinct
variables are put in another order, and if declarations are added that repeat an earlier name or
declare a variable that is not read. -/
theorem Diagram.preview_of_same_defaults (d : Diagram) (p : Palette) (v : String) :
    (∀ declarations declarations' : List Declaration,
      (∃ c ∈ declarations, c.id = v) → (∃ c ∈ declarations', c.id = v) →
      (∀ u, ReflTransGen (d.ReadsInOrder p) v u →
        defaultIn? declarations u = defaultIn? declarations' u) →
      ∃ r, (d.preview p declarations).lookup v = some r ∧
        (d.preview p declarations').lookup v = some r) ∧
    (∀ declarations declarations' : List Declaration, declarations.Perm declarations' →
      (declarations.map (·.id)).Nodup →
      (d.preview p declarations).lookup v = (d.preview p declarations').lookup v) ∧
    (∀ before more after : List Declaration,
      (∀ c ∈ more, (∃ c' ∈ before, c'.id = c.id) ∨ ¬ ReflTransGen (d.ReadsInOrder p) v c.id) →
      (d.preview p (before ++ more ++ after)).lookup v =
        (d.preview p (before ++ after)).lookup v) := by
  refine ⟨?_, ?_, ?_⟩
  · intro declarations declarations' hv hv' hsame
    have heq := Survey.SameDefaults.lookup_eq hsame
    exact ⟨_, Survey.lookup_preview_of_declared hv, heq ▸ Survey.lookup_preview_of_declared hv⟩
  · intro declarations declarations' hperm hnodup
    refine Survey.SameDefaults.lookup_eq fun u _ => ?_
    unfold defaultIn?
    rw [find?_of_perm hnodup hperm]
  · intro before more after hmore
    refine Survey.SameDefaults.lookup_eq fun u hu => Survey.defaultIn?_of_insert fun c hc => ?_
    exact (hmore c hc).imp_right fun hread hid => hread (hid ▸ hu)

/-- `"x"` reads `"y"` and is read by `"z"`. Nothing changes for `"x"` if its declarations are put in
another order, if `"z"` starts elsewhere, if `"x"` is declared again or `"w"` is declared, which
nothing reads. -/
theorem Diagram.preview_below_other_declarations :
    let port (v : String) : Port := { id := "out", variableId := some v }
    let d : Diagram :=
      { nodes := [{ id := "s", role := .entry },
          { id := "a", role := .assign, outputs := [port "x"] },
          { id := "b", role := .assign, outputs := [port "z"] },
          { id := "c", role := .read, outputs := [port "y"] },
          { id := "e", role := .read, outputs := [port "x"] }]
        edges := [{ id := "1", source := "s", target := "a" },
          { id := "2", source := "a", target := "b" },
          { id := "3", source := "c", target := "a", statedFlow := some .data },
          { id := "4", source := "e", target := "b", statedFlow := some .data }] }
    let declare (v value : String) : Declaration := { id := v, name := v, default := .str value }
    let declarations := [declare "x" "off", declare "y" "on", declare "z" "on"]
    let declarations' := [declare "z" "off", declare "y" "on", declare "x" "off"]
    let more := [declare "x" "on", declare "w" "on"]
    ((∃ c ∈ declarations, c.id = "x") ∧ (∃ c ∈ declarations', c.id = "x") ∧
      d.ReadsInOrder .empty "x" "y" ∧
      ∀ u, ReflTransGen (d.ReadsInOrder .empty) "x" u →
        defaultIn? declarations u = defaultIn? declarations' u) ∧
    (declarations.Perm declarations.reverse ∧ (declarations.map (·.id)).Nodup) ∧
    (∀ c ∈ more, (∃ c' ∈ declarations, c'.id = c.id) ∨
      ¬ ReflTransGen (d.ReadsInOrder .empty) "x" c.id) ∧
    ∃ r, (d.preview .empty declarations).lookup "x" = some r ∧ r.value = .str "on" ∧
      (d.preview .empty declarations').lookup "x" = some r ∧
      (d.preview .empty declarations.reverse).lookup "x" = some r ∧
      (d.preview .empty (declarations ++ more ++ [])).lookup "x" = some r := by
  intro port d declare declarations declarations' more
  have hx : ∃ c ∈ declarations, c.id = "x" := ⟨_, List.mem_cons_self .., rfl⟩
  have hx' : ∃ c ∈ declarations', c.id = "x" :=
    ⟨declare "x" "off", by simp [declarations'], rfl⟩
  have hcopies : (Execution.of d).copies .empty "x" = ["y"] := by cbv
  have hcopies' : (Execution.of d).copies .empty "y" = [] := by cbv
  have hnext : (Survey.of d .empty declarations).copyLinks.next "x" = ["y"] := by cbv
  have hstep : (Survey.of d .empty declarations).copyLinks.Step "x" "y" := by
    simp [Links.Step, hnext]
  have hreads : d.ReadsInOrder .empty "x" "y" := Survey.readsInOrder_of_step hstep
  -- `"x"` reads `"y"`, and that is all
  have hclosed : ∀ u, ReflTransGen (d.ReadsInOrder .empty) "x" u → u = "x" ∨ u = "y" := by
    intro u hu
    induction hu with
    | refl => exact Or.inl rfl
    | tail _ hstep ih =>
      have hcopied := Execution.mem_copies.mpr hstep.reads
      rcases ih with rfl | rfl
      · rw [hcopies, List.mem_singleton] at hcopied
        exact Or.inr hcopied
      · rw [hcopies'] at hcopied
        simp at hcopied
  have hdefaults : ∀ u, ReflTransGen (d.ReadsInOrder .empty) "x" u →
      defaultIn? declarations u = defaultIn? declarations' u := by
    intro u hu
    rcases hclosed u hu with rfl | rfl <;> rfl
  have hperm : declarations.Perm declarations.reverse := (List.reverse_perm _).symm
  have hnodup : (declarations.map (·.id)).Nodup := by simp [declarations, declare]
  have hmore : ∀ c ∈ more, (∃ c' ∈ declarations, c'.id = c.id) ∨
      ¬ ReflTransGen (d.ReadsInOrder .empty) "x" c.id := by
    intro c hc
    rcases List.mem_cons.mp hc with rfl | hc
    · exact Or.inl hx
    · rw [List.mem_singleton] at hc
      refine Or.inr fun hread => ?_
      have := hclosed c.id hread
      simp [hc, declare] at this
  obtain ⟨hsame, hreordered, hadded⟩ := preview_of_same_defaults d .empty "x"
  obtain ⟨r, hr, hr'⟩ := hsame declarations declarations' hx hx' hdefaults
  have hvalue : ((d.preview .empty declarations).lookup "x").map (·.value) = some (.str "on") := by
    cbv
  refine ⟨⟨hx, hx', hreads, hdefaults⟩, ⟨hperm, hnodup⟩, hmore, r, hr, by simpa [hr] using hvalue,
    hr', ?_, ?_⟩
  · rw [← hreordered _ _ hperm hnodup]
    exact hr
  · rw [hadded _ _ _ hmore, List.append_nil]
    exact hr

end Blueprint
