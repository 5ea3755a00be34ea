import Blueprint.Proofs.Reordered
import Blueprint.Proofs.Resolved

/-!
# Proofs: the order of declaration and the preview

In another order of declaration the assignments of a variable may execute in another order, and the
value shown is that of the first one. Where the assignments agree, all their values are equal, so
the choice does not show; where they disagree, they do so in any order. The comparison of two runs
goes along the variables needed: what an assignment copies is alike in both, so what it produces is.
-/

namespace Blueprint

open Relation

/-- How far two values have to agree that are found under a status. Of sure values it is asked that
they are equal, of defaults that they are the same; where assignments disagree, either value may
be shown. -/
def Status.Agree : Status → Value → Value → Prop
  | .resolved, x, y => x = y ∨ x.same y = true
  | .unknown, x, y => x = y
  | .ambiguous, _, _ => True

theorem Status.Agree.refl (status : Status) (x : Value) : status.Agree x x := by
  cases status with
  | resolved => exact Or.inl rfl
  | unknown => rfl
  | ambiguous => trivial

theorem Status.Agree.symm {status : Status} {x y : Value} (h : status.Agree x y) :
    status.Agree y x := by
  cases status with
  | resolved => exact h.imp Eq.symm Value.same_symm
  | unknown => exact Eq.symm h
  | ambiguous => trivial

/-- Equal values stay equal when each is replaced by one that agrees with it. -/
theorem Value.same_of_agree {x x' y y' : Value} (h : x.same y = true)
    (hx : Status.resolved.Agree x x') (hy : Status.resolved.Agree y y') : x'.same y' = true := by
  have hx' : x'.same y = true := by
    rcases hx with rfl | hx
    · exact h
    · exact Value.same_trans (Value.same_symm hx) h
  rcases hy with rfl | hy
  · exact hx'
  · exact Value.same_trans hx' hy

/-! ## Assignments of two runs -/

namespace Produced

/-- What an assignment produces in two runs. -/
structure Alike (m m' : Produced) : Prop where
  status : m.status = m'.status
  value : m.status.Agree m.value m'.value

theorem Alike.symm {m m' : Produced} (h : m.Alike m') : m'.Alike m :=
  ⟨h.status.symm, h.status ▸ h.value.symm⟩

/-- Two assignments do not contradict each other: if both are sure, their values are equal. -/
def Compatible (m k : Produced) : Prop :=
  m.status = .resolved → k.status = .resolved → m.value.same k.value = true

theorem Compatible.symm {m k : Produced} (h : m.Compatible k) : k.Compatible m :=
  fun hk hm => Value.same_symm (h hm hk)

theorem Compatible.of_alike {m m' k k' : Produced} (h : m.Compatible k) (hm : m.Alike m')
    (hk : k.Alike k') : m'.Compatible k' := by
  intro hm' hk'
  have hms : m.status = .resolved := hm.status.trans hm'
  have hks : k.status = .resolved := hk.status.trans hk'
  exact Value.same_of_agree (h hms hks) (hms ▸ hm.value) (hks ▸ hk.value)

theorem disagree_eq_false_iff_compatible {ms : List Produced} :
    disagree (ms.filterMap settled?) = false ↔ ms.Pairwise Compatible := by
  have hsettled : ∀ (m : Produced) x, m.settled? = some x ↔ m.status = .resolved ∧ m.value = x := by
    intro m x
    unfold settled?
    split <;> simp [*]
  rw [disagree_eq_false_iff, List.pairwise_filterMap]
  simp only [hsettled]
  refine List.Pairwise.iff fun m k => ⟨?_, ?_⟩
  · intro h hm hk
    exact h _ ⟨hm, rfl⟩ _ ⟨hk, rfl⟩
  · rintro h x ⟨hm, rfl⟩ y ⟨hk, rfl⟩
    exact h hm hk

variable {ns ns' : List Node} {f f' : Node → Produced}

theorem disagree_of_perm (hperm : ns.Perm ns') (h : ∀ n ∈ ns, (f n).Alike (f' n)) :
    disagree ((ns.map f).filterMap settled?) = disagree ((ns'.map f').filterMap settled?) := by
  have hpairs : (ns.map f).Pairwise Compatible ↔ (ns'.map f').Pairwise Compatible := by
    rw [List.pairwise_map, List.pairwise_map, ← hperm.pairwise_iff fun h => h.symm]
    refine List.Pairwise.iff_of_mem fun {n m} hn hm => ⟨fun hc => ?_, fun hc => ?_⟩
    · exact hc.of_alike (h n hn) (h m hm)
    · exact hc.of_alike (h n hn).symm (h m hm).symm
  rw [Bool.eq_iff_iff, ← not_iff_not, Bool.not_eq_true, Bool.not_eq_true,
    disagree_eq_false_iff_compatible, disagree_eq_false_iff_compatible, hpairs]

theorem any_status_of_perm (hperm : ns.Perm ns') (h : ∀ n ∈ ns, (f n).Alike (f' n))
    (status : Status) :
    (ns.map f).any (·.status = status) = (ns'.map f').any (·.status = status) := by
  rw [Bool.eq_iff_iff]
  simp only [List.any_map, List.any_eq_true, Function.comp, ← hperm.mem_iff]
  refine exists_congr fun n => and_congr_right fun hn => ?_
  rw [(h n hn).status]

/-- If all assignments are sure and none contradicts another, the values of any two of them agree,
each in its own run. -/
theorem agree_of_compatible (hpairs : ns.Pairwise fun n m => (f n).Compatible (f m))
    (hsure : ∀ n ∈ ns, (f n).status = .resolved) (h : ∀ n ∈ ns, (f n).Alike (f' n))
    {n m : Node} (hn : n ∈ ns) (hm : m ∈ ns) :
    Status.resolved.Agree (f n).value (f' m).value := by
  have hagree : Status.resolved.Agree (f m).value (f' m).value := hsure m hm ▸ (h m hm).value
  by_cases hnm : n = m
  · exact hnm ▸ hagree
  · have : Std.Symm fun n m => (f n).Compatible (f m) := ⟨fun _ _ => Compatible.symm⟩
    have hsame := hpairs.forall hn hm hnm (hsure n hn) (hsure m hm)
    exact Or.inr (Value.same_of_agree hsame (.refl _ _) hagree)

end Produced

/-! ## Resolutions of two runs -/

/-- What is found out about a variable in two runs. -/
structure Resolution.Alike (r r' : Resolution) : Prop where
  status : r.status = r'.status
  candidates : r.candidates.Perm r'.candidates
  source : r.source = r'.source
  value : r.status.Agree r.value r'.value

theorem Resolution.Alike.refl (r : Resolution) : r.Alike r := ⟨rfl, .refl _, rfl, .refl _ _⟩

namespace Produced

variable {f f' : Node → Produced} {default : Value}

/-- Assignments that produce alike values in two runs are alike when put together, in whatever order
each run has them. -/
theorem alike_combine {ns ns' : List Node} (hperm : ns.Perm ns')
    (h : ∀ n ∈ ns, (f n).Alike (f' n)) :
    (combine default (ns.map (·.id)) (ns.map f)).Alike
      (combine default (ns'.map (·.id)) (ns'.map f')) := by
  have hdisagree := disagree_of_perm hperm h
  have hambiguous := any_status_of_perm hperm h .ambiguous
  have hunknown := any_status_of_perm hperm h .unknown
  have hids := hperm.map (·.id)
  rcases perm_cases hperm with ⟨rfl, rfl⟩ | ⟨n, rfl, rfl⟩ | ⟨a, b, rest, a', b', rest', rfl, rfl⟩
  · exact .refl _
  · have hn := h n (List.mem_singleton_self n)
    exact ⟨hn.status, .refl _, rfl, hn.value⟩
  simp only [List.map_cons] at hdisagree hambiguous hunknown hids ⊢
  rw [combine, combine, ← hdisagree, ← hambiguous, ← hunknown]
  split
  · exact ⟨rfl, hids, rfl, trivial⟩
  · next hclear =>
    split
    · exact ⟨rfl, hids, rfl, rfl⟩
    · next hknown =>
      -- each run shows the value of its first assignment, `a` and `a'`
      rw [Bool.not_eq_true, Bool.or_eq_false_iff] at hclear
      rw [Bool.not_eq_true] at hknown
      have hpairs : ((a :: b :: rest).map f).Pairwise Compatible :=
        disagree_eq_false_iff_compatible.mp hclear.1
      have hsure : ∀ m ∈ (a :: b :: rest).map f, m.status = .resolved :=
        forall_resolved_iff.mpr ⟨hclear.2, hknown⟩
      have hfirst : a' ∈ a :: b :: rest := hperm.mem_iff.mpr (List.mem_cons_self ..)
      exact ⟨rfl, hids, rfl, agree_of_compatible (List.pairwise_map.mp hpairs)
        (List.forall_mem_map.mp hsure) h (List.mem_cons_self ..) hfirst⟩

end Produced

namespace Survey

/-- What an assignment produces is alike if what it copies is. -/
theorem alike_produced {look look' : String → Resolution} {default : Value} {supply : Supply}
    (h : ∀ w, supply = .copied w → (look w).Alike (look' w)) :
    (supply.produced look default).Alike (supply.produced look' default) := by
  cases supply with
  | several => exact ⟨rfl, trivial⟩
  | computed => exact ⟨rfl, rfl⟩
  | own entered => cases entered <;> exact ⟨rfl, .refl _ _⟩
  | copied w =>
    have hw := h w rfl
    by_cases hunknown : (look w).status = .unknown
    · have hunknown' : (look' w).status = .unknown := hw.status ▸ hunknown
      rw [Supply.produced, Supply.produced, if_pos hunknown, if_pos hunknown']
      exact ⟨rfl, rfl⟩
    · have hknown : ¬ (look' w).status = .unknown := hw.status ▸ hunknown
      rw [Supply.produced, Supply.produced, if_neg hunknown, if_neg hknown]
      exact ⟨hw.status, hw.value⟩

variable {d d' : Diagram} {p : Palette} {declarations : List Declaration}

theorem hasEntry_of_reordered (h : d.Reordered d') :
    (of d p declarations).hasEntry = (of d' p declarations).hasEntry := by
  rw [Bool.eq_iff_iff, hasEntry_iff, hasEntry_iff]
  simp only [h.nodes.mem_iff]

theorem mem_entangled_of_reordered (h : d.Reordered d') {v : String} :
    v ∈ (of d p declarations).entangled ↔ v ∈ (of d' p declarations).entangled := by
  have hstep : (of d p declarations).copyLinks.Step = (of d' p declarations).copyLinks.Step := by
    funext u w
    apply propext
    rw [step_copyLinks, step_copyLinks, h.unordered_eq, h.reads_iff]
    simp only [h.assigns_iff]
  rw [mem_entangled, mem_entangled, hstep]

/-- A resolution is made alike in both orders if those it needs are alike. -/
theorem alike_resolve (h : d.Reordered d') {look look' : String → Resolution}
    {declared : Declaration} (hd : (of d p declarations).Declared declared.id)
    (hlook : ∀ w, (of d p declarations).Needs declared.id w → (look w).Alike (look' w)) :
    ((of d p declarations).resolve look declared).Alike
      ((of d' p declarations).resolve look' declared) := by
  have htainted := h.isTainted_eq declared.id
  by_cases hentry : (of d p declarations).hasEntry = true
  · have hentry' := hasEntry_of_reordered h ▸ hentry
    by_cases hstop : (of d p declarations).execution.isTainted declared.id = true ∨
        declared.id ∈ (of d p declarations).entangled
    · have hstop' : (of d' p declarations).execution.isTainted declared.id = true ∨
          declared.id ∈ (of d' p declarations).entangled := by
        rw [mem_entangled_of_reordered h] at hstop
        exact htainted ▸ hstop
      rw [resolve_of_stopped hentry hstop, resolve_of_stopped hentry' hstop']
      exact ⟨rfl, (h.assignments _).map _, rfl, rfl⟩
    · obtain ⟨hordered, hfree⟩ := not_or.mp hstop
      rw [resolve_of_ordered hentry hordered hfree,
        resolve_of_ordered hentry' (htainted ▸ hordered) fun hm =>
          hfree ((mem_entangled_of_reordered h).mpr hm)]
      refine Produced.alike_combine (h.assignments _) fun n hn => ?_
      rw [of_execution, of_execution, of_palette, of_palette, ← h.supply_eq n]
      refine alike_produced fun w hw => hlook w (consults_iff_needs.mp ?_)
      exact ⟨hd, hentry, hordered, hfree, n, hn, hw⟩
  · have hentry' := hasEntry_of_reordered h ▸ hentry
    rw [resolve_of_no_entry hentry, resolve_of_no_entry hentry']
    exact .refl _

/-- Every variable is found alike in both orders, by induction along what it needs. -/
theorem alike_look (h : d.Reordered d') (v : String) :
    ((of d p declarations).table.look v).Alike ((of d' p declarations).table.look v) := by
  refine table_look_related (P := fun _ => True) (ordered_of d p declarations)
    (ordered_of d' p declarations) (needs_wellFounded d p declarations) (fun _ _ _ _ => trivial)
    (fun _ _ => Iff.rfl) (.refl _) ?_ trivial
  intro v declared declared' _ hfound hfound' hlook
  -- the declarations are those of one list, and so is the one found
  have hsame : declared = declared' := Option.some.inj (hfound.symm.trans hfound')
  obtain rfl : declared.id = v := declaration?_id hfound
  exact hsame ▸ alike_resolve h ⟨declared, hfound⟩ hlook

end Survey

/-- **The preview does not depend on the order of declaration.** If node names are distinct, a
declared variable has the same status, the same candidates and the same source in a diagram and in
the same diagram in another order; if it is resolved its values are equal, and if it is unknown they
are the same. -/
theorem Diagram.preview_of_perm (p : Palette) (declarations : List Declaration) (d d' : Diagram)
    (hids : d.ids.Nodup) (hnodes : d.nodes.Perm d'.nodes) (hedges : d.edges.Perm d'.edges)
    (v : String) (hv : ∃ declared ∈ declarations, declared.id = v) :
    ∃ r r', (d.preview p declarations).lookup v = some r ∧
      (d'.preview p declarations).lookup v = some r' ∧
      r.status = r'.status ∧ r.candidates.Perm r'.candidates ∧ r.source = r'.source ∧
      (r.status = .resolved → r.value = r'.value ∨ r.value.same r'.value = true) ∧
      (r.status = .unknown → r.value = r'.value) := by
  have halike : ((Survey.of d p declarations).table.look v).Alike
      ((Survey.of d' p declarations).table.look v) :=
    Survey.alike_look ⟨hids, hnodes, hedges⟩ v
  refine ⟨_, _, Survey.lookup_preview_of_declared hv, Survey.lookup_preview_of_declared hv,
    halike.status, halike.candidates, halike.source, fun hresolved => ?_, fun hunknown => ?_⟩
  · have hvalue := halike.value
    rw [hresolved] at hvalue
    exact hvalue
  · have hvalue := halike.value
    rw [hunknown] at hvalue
    exact hvalue

/-- Two assignments of `"x"` read equal maps whose entries stand in different orders. Which of the
maps is shown depends on which edge was declared first. -/
theorem Diagram.preview_backwards :
    let port (v : String) : Port := { id := "out", variableId := some v }
    let d : Diagram :=
      { nodes := [{ id := "s", role := .entry },
          { id := "a", role := .assign, outputs := [port "x"] },
          { id := "b", role := .assign, outputs := [port "x"] },
          { id := "y", role := .read, outputs := [port "y"] },
          { id := "z", role := .read, outputs := [port "z"] }]
        edges := [{ id := "1", source := "s", target := "a" },
          { id := "2", source := "s", target := "b" },
          { id := "3", source := "y", target := "a", statedFlow := some .data },
          { id := "4", source := "z", target := "b", statedFlow := some .data }] }
    let d' : Diagram := ⟨d.nodes.reverse, d.edges.reverse⟩
    let there : Value := .map [(.str "k", .null), (.str "l", .str "on")]
    let back : Value := .map [(.str "l", .str "on"), (.str "k", .null)]
    let declarations : List Declaration :=
      [{ id := "x", name := "x" }, { id := "y", name := "y", default := there },
       { id := "z", name := "z", default := back }]
    (d.ids.Nodup ∧ d.nodes.Perm d'.nodes ∧ d.edges.Perm d'.edges ∧
      ∃ declared ∈ declarations, declared.id = "x") ∧
      ∃ r r', (d.preview .empty declarations).lookup "x" = some r ∧
        (d'.preview .empty declarations).lookup "x" = some r' ∧
        r.status = .resolved ∧ r'.status = .resolved ∧
        r.value = there ∧ r'.value = back ∧ r.candidates = ["a", "b"] ∧
        r'.candidates.Perm ["a", "b"] ∧ (there = back ∨ there.same back = true) := by
  intro port d d' there back declarations
  have hids : d.ids.Nodup := by simp [d, ids]
  have hnodes : d.nodes.Perm d'.nodes := (List.reverse_perm _).symm
  have hedges : d.edges.Perm d'.edges := (List.reverse_perm _).symm
  have hv : ∃ declared ∈ declarations, declared.id = "x" :=
    ⟨{ id := "x", name := "x" }, by simp [declarations], rfl⟩
  have hfound : (d.preview .empty declarations).lookup "x" =
      some ⟨there, .resolved, none, ["a", "b"]⟩ := by cbv
  have hfound' : ((d'.preview .empty declarations).lookup "x").map (·.value) = some back := by cbv
  obtain ⟨r, r', hr, hr', hstatus, hcandidates, -, hvalue, -⟩ :=
    preview_of_perm .empty declarations d d' hids hnodes hedges "x" hv
  rw [hfound] at hr
  cases hr
  have hback : r'.value = back := by simpa [hr'] using hfound'
  refine ⟨⟨hids, hnodes, hedges, hv⟩, _, r', hfound, hr', rfl, hstatus.symm, rfl, hback, rfl,
    hcandidates.symm, ?_⟩
  rw [← hback]
  exact hvalue rfl

end Blueprint
