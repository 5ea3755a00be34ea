import Blueprint.Proofs.Candidates
import Blueprint.Proofs.PreviewOrder

/-!
# Proofs: what the candidates of a variable yield

What a candidate yields is said by the edges that bring it values, and by the preview itself where
it reads another variable. Several candidates are put together by comparing with the first sure
value; equality is symmetric and transitive, so that decides for any two of them, also where a value
is not equal to itself. And a value is never made up: followed back from variable to variable, each
comes from a default or from a value entered by hand.
-/

namespace Blueprint

open Relation

/-- What an assignment yields and how sure that is, if `own` is the default of the variable that it
assigns. -/
inductive Diagram.Yields (d : Diagram) (p : Palette) (declarations : List Declaration)
    (own : Value) (n : Node) : Produced → Prop
  /-- Several values are brought to it. -/
  | several (feeds : 1 < (d.valueFeeds n).length) : Yields d p declarations own n ⟨own, .ambiguous⟩
  /-- The value brought to it is not that of a variable. -/
  | computed {e : Edge} (feed : d.valueFeeds n = [e]) (other : ∀ w, ¬ d.Carries p e w) :
    Yields d p declarations own n ⟨own, .unknown⟩
  /-- It reads a variable that is unknown or not declared. -/
  | lost {e : Edge} {w : String} (feed : d.valueFeeds n = [e]) (carries : d.Carries p e w)
    (unknown : ∀ r, (d.preview p declarations).lookup w = some r → r.status = .unknown) :
    Yields d p declarations own n ⟨own, .unknown⟩
  /-- It reads a variable of which more is found out. -/
  | read {e : Edge} {w : String} {r : Resolution} (feed : d.valueFeeds n = [e])
    (carries : d.Carries p e w) (found : (d.preview p declarations).lookup w = some r)
    (known : r.status ≠ .unknown) : Yields d p declarations own n ⟨r.value, r.status⟩
  /-- The value entered by hand. -/
  | entered {x : Value} (feed : d.valueFeeds n = []) (override : n.override? = some x) :
    Yields d p declarations own n ⟨x, .resolved⟩
  /-- The default of the variable. -/
  | initial (feed : d.valueFeeds n = []) (override : n.override? = none) :
    Yields d p declarations own n ⟨own, .resolved⟩

/-! ## One candidate -/

namespace Survey

variable {d : Diagram} {p : Palette} {declarations : List Declaration} {own : Value} {n : Node}

theorem status_look_eq_unknown_iff {w : String} :
    ((of d p declarations).table.look w).status = .unknown ↔
      ∀ r, (d.preview p declarations).lookup w = some r → r.status = .unknown := by
  constructor
  · intro h r hr
    obtain ⟨-, rfl⟩ := lookup_preview_eq_some.mp hr
    exact h
  · intro h
    by_contra hknown
    exact hknown (h _ (lookup_preview_of_known hknown))

theorem yields_produced : d.Yields p declarations own n
    (((Execution.of d).supply p n).produced (of d p declarations).table.look own) := by
  rcases hf : d.valueFeeds n with _ | ⟨e, _ | ⟨e', rest⟩⟩
  · rw [Execution.supply_eq_own hf]
    cases ho : n.override? with
    | none => exact .initial hf ho
    | some x => exact .entered hf ho
  · by_cases hc : ∃ w, d.Carries p e w
    · obtain ⟨w, hw⟩ := hc
      rw [Execution.supply_eq_copied.mpr ⟨e, hf, hw⟩, Supply.produced]
      split
      · next hunknown => exact .lost hf hw (status_look_eq_unknown_iff.mp hunknown)
      · next hknown => exact .read hf hw (lookup_preview_of_known hknown) hknown
    · have hno : ∀ w, ¬ d.Carries p e w := fun w hw => hc ⟨w, hw⟩
      rw [Execution.supply_eq_computed hf hno]
      exact .computed hf hno
  · have hlen : 1 < (d.valueFeeds n).length := by simp [hf]
    rw [Execution.supply_eq_several hlen]
    exact .several hlen

/-- An assignment yields one thing, and that is what the preview takes it to produce. -/
theorem yields_iff {m : Produced} :
    d.Yields p declarations own n m ↔
      m = ((Execution.of d).supply p n).produced (of d p declarations).table.look own := by
  constructor
  · intro h
    cases h with
    | several feeds => rw [Execution.supply_eq_several feeds, Supply.produced]
    | computed feed other => rw [Execution.supply_eq_computed feed other, Supply.produced]
    | lost feed carries unknown =>
      rw [Execution.supply_eq_copied.mpr ⟨_, feed, carries⟩, Supply.produced,
        if_pos (status_look_eq_unknown_iff.mpr unknown)]
    | read feed carries found known =>
      obtain ⟨-, rfl⟩ := lookup_preview_eq_some.mp found
      rw [Execution.supply_eq_copied.mpr ⟨_, feed, carries⟩, Supply.produced, if_neg known]
    | entered feed override => rw [Execution.supply_eq_own feed, override, Supply.produced]
    | initial feed override => rw [Execution.supply_eq_own feed, override, Supply.produced]
  · rintro rfl
    exact yields_produced

/-- What the nodes of a diagram yield, by their names. -/
theorem exists_made (d : Diagram) (p : Palette) (declarations : List Declaration) (own : Value) :
    ∃ made : String → Produced, ∀ id n, d.node? id = some n →
      ∀ m, d.Yields p declarations own n m ↔ m = made id := by
  refine ⟨fun id => (d.node? id).elim ⟨own, .unknown⟩ fun n =>
    ((Execution.of d).supply p n).produced (of d p declarations).table.look own, ?_⟩
  intro id n hn m
  dsimp only
  rw [hn]
  exact yields_iff

end Survey

/-! ## Several candidates -/

namespace Produced

variable {default : Value} {ids : List String} {ms : List Produced}

theorem not_compatible_iff {m k : Produced} :
    ¬ m.Compatible k ↔
      m.status = .resolved ∧ k.status = .resolved ∧ ¬ m.value.same k.value = true := by
  unfold Compatible
  push Not
  rfl

/-- Several assignments are ambiguous together if one of them is or two contradict each other. -/
theorem status_combine_eq_ambiguous (h : 2 ≤ ms.length) :
    (combine default ids ms).status = .ambiguous ↔
      (∃ m ∈ ms, m.status = .ambiguous) ∨ ¬ ms.Pairwise Compatible := by
  rcases ms with _ | ⟨first, _ | ⟨second, rest⟩⟩
  · simp at h
  · simp at h
  rw [combine, ← disagree_eq_false_iff_compatible]
  generalize first :: second :: rest = all
  have hcondition : (disagree (all.filterMap settled?) || all.any (·.status = .ambiguous)) = true ↔
      (∃ m ∈ all, m.status = .ambiguous) ∨ ¬ disagree (all.filterMap settled?) = false := by
    rw [Bool.or_eq_true, Bool.not_eq_false, or_comm]
    simp
  split
  · next hambiguous => exact iff_of_true rfl (hcondition.mp hambiguous)
  · next hclear =>
    refine iff_of_false ?_ fun hor => hclear (hcondition.mpr hor)
    split <;> simp

theorem status_combine_eq_unknown
    (hclear : (combine default ids ms).status ≠ .ambiguous) :
    (combine default ids ms).status = .unknown ↔ ∃ m ∈ ms, m.status = .unknown := by
  refine ⟨exists_unknown_of_combine, ?_⟩
  rintro ⟨m, hm, hunknown⟩
  -- one that is unknown keeps the others from being resolved together
  have hnot : (combine default ids ms).status ≠ .resolved := by
    intro hresolved
    have := ((status_combine default ids ms).mp hresolved).1 m hm
    rw [hunknown] at this
    cases this
  cases hstatus : (combine default ids ms).status with
  | resolved => exact absurd hstatus hnot
  | ambiguous => exact absurd hstatus hclear
  | unknown => rfl

/-- Unless it is unknown, the value shown is that of the first assignment. -/
theorem value_combine {first : Produced} {rest : List Produced}
    (h : (combine default ids (first :: rest)).status ≠ .unknown) :
    (combine default ids (first :: rest)).value = first.value := by
  cases rest with
  | nil => rfl
  | cons second rest =>
    rw [combine] at h ⊢
    split
    · rfl
    · next hclear =>
      split
      · next hunknown =>
        rw [if_neg hclear, if_pos hunknown] at h
        exact absurd rfl h
      · rfl

/-- Of two or more assignments that are resolved together, the first is equal to any, to itself
too. -/
theorem same_value_combine (h : 2 ≤ ms.length)
    (hresolved : (combine default ids ms).status = .resolved) :
    ∀ m ∈ ms, (combine default ids ms).value.same m.value = true := by
  obtain ⟨-, hpairs⟩ := (status_combine default ids ms).mp hresolved
  rcases ms with _ | ⟨first, _ | ⟨second, rest⟩⟩
  · simp at h
  · simp at h
  have hrest : ∀ m ∈ second :: rest, first.value.same m.value = true :=
    (List.pairwise_cons.mp hpairs).1
  have hsecond : first.value.same second.value = true := hrest second (List.mem_cons_self ..)
  intro m hm
  rw [value_combine (by simp [hresolved])]
  rcases List.mem_cons.mp hm with rfl | hm
  · exact Value.same_trans hsecond (Value.same_symm hsecond)
  · exact hrest m hm

/-- Distinct names whose assignments are not all compatible: two of them are sure of unequal
values. -/
theorem not_pairwise_compatible_iff (hnodup : ids.Nodup) (made : String → Produced) :
    ¬ (ids.map made).Pairwise Compatible ↔
      ∃ id ∈ ids, ∃ id' ∈ ids, id ≠ id' ∧ (made id).status = .resolved ∧
        (made id').status = .resolved ∧ ¬ (made id).value.same (made id').value = true := by
  have hpairs : (ids.map made).Pairwise Compatible ↔
      ∀ id ∈ ids, ∀ id' ∈ ids, id ≠ id' → (made id).Compatible (made id') := by
    rw [List.pairwise_map]
    constructor
    · intro h id hid id' hid' hne
      have : Std.Symm fun id id' => (made id).Compatible (made id') :=
        ⟨fun _ _ => Compatible.symm⟩
      exact h.forall hid hid' hne
    · intro h
      exact hnodup.pairwise_of_forall_ne h
  rw [hpairs]
  simp only [← not_compatible_iff]
  push Not
  rfl

end Produced

/-- How what several candidates yield is put together. It is ambiguous if one of them is, or if two
of them are sure of unequal values; otherwise it is unknown if one of them is; otherwise it is
resolved, and the value is equal to that of every candidate. -/
structure Resolution.Combines (r : Resolution) (made : String → Produced) : Prop where
  ambiguous_iff : r.status = .ambiguous ↔
    (∃ id ∈ r.candidates, (made id).status = .ambiguous) ∨
      ∃ id ∈ r.candidates, ∃ id' ∈ r.candidates, id ≠ id' ∧ (made id).status = .resolved ∧
        (made id').status = .resolved ∧ ¬ (made id).value.same (made id').value = true
  unknown_iff : r.status ≠ .ambiguous →
    (r.status = .unknown ↔ ∃ id ∈ r.candidates, (made id).status = .unknown)
  resolved : r.status ≠ .ambiguous → r.status ≠ .unknown →
    r.status = .resolved ∧ ∀ id ∈ r.candidates, r.value.same (made id).value = true

theorem Produced.combines_combine {default : Value} {ids : List String} (hnodup : ids.Nodup)
    (htwo : 2 ≤ ids.length) (made : String → Produced) :
    (combine default ids (ids.map made)).Combines made := by
  have hlen : 2 ≤ (ids.map made).length := by simpa using htwo
  have hcandidates := candidates_combine default ids (ids.map made)
  refine ⟨?_, fun hclear => ?_, fun hclear hknown => ?_⟩
  · rw [hcandidates, status_combine_eq_ambiguous hlen, not_pairwise_compatible_iff hnodup]
    simp only [List.mem_map, exists_exists_and_eq_and]
  · rw [hcandidates, status_combine_eq_unknown hclear]
    simp only [List.mem_map, exists_exists_and_eq_and]
  · have hresolved : (combine default ids (ids.map made)).status = .resolved := by
      cases hstatus : (combine default ids (ids.map made)).status with
      | resolved => rfl
      | ambiguous => exact absurd hstatus hclear
      | unknown => exact absurd hstatus hknown
    refine ⟨hresolved, fun id hid => ?_⟩
    rw [hcandidates] at hid
    exact same_value_combine hlen hresolved _ (List.mem_map_of_mem hid)

namespace Survey

variable {d : Diagram} {p : Palette} {declarations : List Declaration} {declared : Declaration}

/-- Where nothing stops it, the resolution of a variable is put together from what its assignments
yield. -/
theorem resolve_eq_combine {made : String → Produced}
    (hmade : ∀ n, d.Assigns n declared.id → d.Yields p declarations declared.default n (made n.id))
    (hentry : ∃ n ∈ d.nodes, n.role = .entry) (hfree : ¬ d.Stopped p declarations declared.id) :
    (of d p declarations).resolve (of d p declarations).table.look declared =
      Produced.combine declared.default (((Execution.of d).assignments declared.id).map (·.id))
        ((((Execution.of d).assignments declared.id).map (·.id)).map made) := by
  rw [stopped_iff, not_or] at hfree
  rw [resolve_of_ordered (hasEntry_iff.mpr hentry) hfree.1 hfree.2, List.map_map]
  congr 1
  refine List.map_congr_left fun n hn => ?_
  exact (yields_iff.mp (hmade n (Execution.mem_assignments.mp hn))).symm

end Survey

/-- **Comparing with the first value decides for any two.** If a declared variable has two
candidates or more and nothing stops the preview from looking at what they yield, its status is
decided by the candidates' own and by whether any two sure ones have equal values, and where it is
resolved its value is equal to that of each candidate. -/
theorem Diagram.preview_combines_candidates (d : Diagram) (p : Palette)
    (declarations : List Declaration) (v : String)
    (hv : ∃ declared ∈ declarations, declared.id = v) :
    ∃ declared r made, declarations.find? (·.id == v) = some declared ∧
      (d.preview p declarations).lookup v = some r ∧
      (∀ id ∈ r.candidates, ∃ n, d.node? id = some n ∧
        ∀ m, d.Yields p declarations declared.default n m ↔ m = made id) ∧
      (2 ≤ r.candidates.length → ¬ d.Stopped p declarations v → r.Combines made) := by
  obtain ⟨declared, hfound, rfl, hlookup⟩ := Survey.exists_resolution d p hv
  obtain ⟨made, hmade⟩ := Survey.exists_made d p declarations declared.default
  refine ⟨declared, _, made, hfound, hlookup, fun id hid => ?_, fun htwo hfree => ?_⟩
  · obtain ⟨n, hn, rfl⟩ := Survey.mem_candidates_resolve.mp hid
    exact ⟨n, hn.first, hmade n.id n hn.first⟩
  · rw [Survey.candidates_resolve_eq] at htwo
    -- a candidate is one that execution comes to, from some entry
    obtain ⟨id, hid⟩ := List.exists_mem_of_length_pos (Nat.zero_lt_two.trans_le htwo)
    obtain ⟨n, hn, -⟩ := List.mem_map.mp hid
    obtain ⟨entry, hentry, hrole, -⟩ := (Execution.mem_assignments.mp hn).reached
    have hyields : ∀ n, d.Assigns n declared.id →
        d.Yields p declarations declared.default n (made n.id) :=
      fun n hn => (hmade n.id n hn.first _).mpr rfl
    rw [Survey.resolve_eq_combine hyields ⟨entry, hentry, hrole⟩ hfree]
    exact Produced.combines_combine (Execution.nodup_assignments _) htwo made

/-- Two assignments leave `"x"` at its default, an undefined number, which is not equal to itself.
Two more leave `"y"` at a list of that number, and these are equal: it is one number in both. -/
theorem Diagram.preview_combines_candidates_of_undefined_number :
    let port (v : String) : Port := { id := "out", variableId := some v }
    let assign (id v : String) : Node := { id := id, role := .assign, outputs := [port v] }
    let d : Diagram :=
      { nodes := [{ id := "s", role := .entry }, assign "a" "x", assign "b" "x", assign "c" "y",
          assign "e" "y"]
        edges := [{ id := "1", source := "s", target := "a" },
          { id := "2", source := "a", target := "b" }, { id := "3", source := "b", target := "c" },
          { id := "4", source := "c", target := "e" }] }
    let declarations : List Declaration :=
      [{ id := "x", name := "x", default := .float .nan },
       { id := "y", name := "y", default := .list [.float .nan] }]
    (∃ declared ∈ declarations, declared.id = "x") ∧ ¬ d.Stopped .empty declarations "x" ∧
      (∃ r made, (d.preview .empty declarations).lookup "x" = some r ∧
        r.candidates = ["a", "b"] ∧ made "a" = ⟨.float .nan, .resolved⟩ ∧
        made "b" = ⟨.float .nan, .resolved⟩ ∧ r.Combines made ∧ r.status = .ambiguous) ∧
      (d.preview .empty declarations).lookup "y" =
        some ⟨.list [.float .nan], .resolved, none, ["c", "e"]⟩ := by
  intro port assign d declarations
  have hv : ∃ declared ∈ declarations, declared.id = "x" := ⟨_, List.mem_cons_self .., rfl⟩
  have htainted : (Execution.of d).isTainted "x" = false := by cbv
  have hentangled : (Survey.of d .empty declarations).entangled = [] := by cbv
  have hy : (d.preview .empty declarations).lookup "y" =
      some ⟨.list [.float .nan], .resolved, none, ["c", "e"]⟩ := by cbv
  have hfree : ¬ d.Stopped .empty declarations "x" := by
    rw [Survey.stopped_iff, hentangled, Survey.of_execution, htainted]
    simp
  obtain ⟨declared, r, made, hfound, hr, hmade, hcombines⟩ :=
    preview_combines_candidates d .empty declarations "x" hv
  obtain rfl : _ = declared := Option.some.inj hfound
  have hcandidates : ((d.preview .empty declarations).lookup "x").map (·.candidates) =
      some ["a", "b"] := by cbv
  have hids : r.candidates = ["a", "b"] := by simpa [hr] using hcandidates
  have hinitial : ∀ id n, id ∈ r.candidates → d.node? id = some n → n.override? = none →
      made id = ⟨.float .nan, .resolved⟩ := by
    intro id n hid hn ho
    obtain ⟨n', hn', hyields⟩ := hmade id hid
    rw [hn] at hn'
    cases hn'
    exact ((hyields _).mp (.initial (by simp [valueFeeds, d, Edge.flow]) ho)).symm
  have ha : made "a" = ⟨.float .nan, .resolved⟩ :=
    hinitial "a" (assign "a" "x") (by simp [hids]) rfl rfl
  have hb : made "b" = ⟨.float .nan, .resolved⟩ :=
    hinitial "b" (assign "b" "x") (by simp [hids]) rfl rfl
  have hr' : r.Combines made := hcombines (by simp [hids]) hfree
  refine ⟨hv, hfree, ⟨r, made, hr, hids, ha, hb, hr', hr'.ambiguous_iff.mpr (Or.inr ?_)⟩, hy⟩
  refine ⟨"a", by simp [hids], "b", by simp [hids], by simp, by rw [ha], by rw [hb], ?_⟩
  rw [ha, hb]
  decide

/-! ## Where values come from -/

/-- A value that comes in at a variable: its default, or what is entered by hand at an assignment of
it that no other value is brought to. -/
inductive Diagram.Introduces (d : Diagram) (declarations : List Declaration) (u : String) :
    Value → Prop
  /-- The default, by the first declaration. -/
  | initial {declared : Declaration} (found : declarations.find? (·.id == u) = some declared) :
    Introduces d declarations u declared.default
  /-- The value entered by hand. -/
  | entered {n : Node} {x : Value} (declared : ∃ declared ∈ declarations, declared.id = u)
    (assigns : d.Assigns n u) (feed : d.valueFeeds n = []) (override : n.override? = some x) :
    Introduces d declarations u x

namespace Survey

variable {d : Diagram} {p : Palette} {declarations : List Declaration} {declared : Declaration}

/-- The value of a resolution is the default, or what some assignment yields; the latter only if
nothing stops the variable. -/
theorem value_resolve_cases {r : Resolution}
    (hr : (of d p declarations).resolve (of d p declarations).table.look declared = r) :
    r.value = declared.default ∨ ¬ d.Stopped p declarations declared.id ∧
      ∃ n m, d.Assigns n declared.id ∧ d.Yields p declarations declared.default n m ∧
        r.value = m.value := by
  have hwell : r.WellFormed declared.default := hr ▸ wellFormed_resolve d p declarations _ declared
  rcases resolve_cases (of d p declarations) (of d p declarations).table.look declared with
    ⟨-, hmade⟩ | ⟨-, -, hmade⟩ | ⟨-, hfree, hmade⟩
  · exact Or.inl (by rw [← hr, hmade])
  · exact Or.inl (by rw [← hr, hmade])
  by_cases hunknown : r.status = .unknown
  · exact Or.inl (hwell.unknown hunknown)
  rw [← not_or, ← stopped_iff] at hfree
  rw [hr, of_execution] at hmade
  cases hnodes : (Execution.of d).assignments declared.id with
  | nil =>
    rw [hnodes] at hmade
    exact Or.inl (by rw [hmade]; rfl)
  | cons n rest =>
    -- the value shown is that of the first candidate
    have hn : d.Assigns n declared.id :=
      Execution.mem_assignments.mp (by rw [hnodes]; exact List.mem_cons_self ..)
    rw [hnodes] at hmade
    refine Or.inr ⟨hfree, n, _, hn, yields_produced, ?_⟩
    rw [hmade] at hunknown ⊢
    exact Produced.value_combine hunknown

end Survey

/-- **Values have a provenance.** Whatever its status, the value shown for a declared variable comes
in at that variable, or at a declared variable that it reads, directly or through declared ones. -/
theorem Diagram.preview_value_provenance (d : Diagram) (p : Palette)
    (declarations : List Declaration) (v : String)
    (hv : ∃ declared ∈ declarations, declared.id = v) :
    ∃ r u, (d.preview p declarations).lookup v = some r ∧
      ReflTransGen (d.Depends p declarations) v u ∧ d.Introduces declarations u r.value := by
  -- by induction along what a variable needs: a value that is read comes in further down
  induction v using (Survey.needs_wellFounded d p declarations).induction with
  | _ v ih =>
    obtain ⟨declared, hfound, rfl, hlookup⟩ := Survey.exists_resolution d p hv
    rcases Survey.value_resolve_cases rfl with
      hvalue | ⟨hfree, n, m, hn, hm, hvalue⟩
    · exact ⟨_, declared.id, hlookup, .refl, hvalue ▸ .initial hfound⟩
    rw [hlookup]
    cases hm with
    | @read e w r feed carries found known =>
      have hdepends : d.Depends p declarations declared.id w :=
        ⟨hv, fun n hn hun => hfree (Or.inl ⟨n, hn, hun⟩), n, e, hn, feed, carries⟩
      have hneeds : (Survey.of d p declarations).Needs declared.id w :=
        Survey.needs_iff_depends.mpr ⟨fun hloop => hfree (Or.inr hloop), hdepends⟩
      obtain ⟨hw, -⟩ := Survey.lookup_preview_eq_some.mp found
      obtain ⟨r', u, hr', hwalk, hintroduces⟩ := ih w hneeds hw
      obtain rfl : r = r' := Option.some.inj (found.symm.trans hr')
      exact ⟨_, u, rfl, .head hdepends hwalk, hvalue ▸ hintroduces⟩
    | entered feed override =>
      exact ⟨_, declared.id, rfl, .refl, hvalue ▸ .entered hv hn feed override⟩
    | _ => exact ⟨_, declared.id, rfl, .refl, hvalue ▸ .initial hfound⟩

/-- `"x"` shows the default of `"z"`, which it reads through `"y"`. -/
theorem Diagram.preview_value_provenance_through_two_reads :
    let port (v : String) : Port := { id := "out", variableId := some v }
    let d : Diagram :=
      { nodes := [{ id := "s", role := .entry },
          { id := "a", role := .assign, outputs := [port "x"] },
          { id := "b", role := .assign, outputs := [port "y"] },
          { id := "c", role := .read, outputs := [port "y"] },
          { id := "e", role := .read, outputs := [port "z"] }]
        edges := [{ id := "1", source := "s", target := "a" },
          { id := "2", source := "a", target := "b" },
          { id := "3", source := "c", target := "a", statedFlow := some .data },
          { id := "4", source := "e", target := "b", statedFlow := some .data }] }
    let declarations : List Declaration :=
      [{ id := "x", name := "x" }, { id := "y", name := "y" },
       { id := "z", name := "z", default := .str "on" }]
    (∃ declared ∈ declarations, declared.id = "x") ∧
      ∃ r u, (d.preview .empty declarations).lookup "x" = some r ∧ r.value = .str "on" ∧
        ReflTransGen (d.Depends .empty declarations) "x" u ∧
        d.Introduces declarations u (.str "on") := by
  intro port d declarations
  have hv : ∃ declared ∈ declarations, declared.id = "x" := ⟨_, List.mem_cons_self .., rfl⟩
  have hvalue : ((d.preview .empty declarations).lookup "x").map (·.value) = some (.str "on") := by
    cbv
  obtain ⟨r, u, hr, hwalk, hintroduces⟩ := preview_value_provenance d .empty declarations "x" hv
  have hon : r.value = .str "on" := by simpa [hr] using hvalue
  exact ⟨hv, r, u, hr, hon, hwalk, hon ▸ hintroduces⟩

end Blueprint
