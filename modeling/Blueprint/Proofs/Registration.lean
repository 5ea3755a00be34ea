import Blueprint.Proofs.Extension

/-!
# Proofs: registering types

A palette maps names to types, and registering types unites it with another such map. The union
exists unless a name would stand for two types in it. If it does, it has the types of both, so
neither the order in which types are registered nor how often they are makes a difference.
-/

namespace Blueprint

/-- No two different types have one name. -/
def NamedApart (types : List NodeType) : Prop :=
  ∀ s ∈ types, ∀ t ∈ types, s.name = t.name → s = t

instance (types : List NodeType) : Decidable (NamedApart types) :=
  inferInstanceAs (Decidable (∀ s ∈ types, ∀ t ∈ types, s.name = t.name → s = t))

theorem NamedApart.mono {types types' : List NodeType} (h : NamedApart types')
    (hsub : types ⊆ types') : NamedApart types :=
  fun s hs t ht => h s (hsub hs) t (hsub ht)

namespace Palette

/-- The same names stand for the same types, whatever the order of their registration, and the same
roles are bridged. -/
structure Alike (p q : Palette) : Prop where
  find? : ∀ name, p.find? name = q.find? name
  bridges : p.bridges = q.bridges

/-- The palette `q` has the types of `p` and the given ones, each under its name, and the bridges
of `p`. -/
structure IsUnion (p : Palette) (types : List NodeType) (q : Palette) : Prop where
  find? : ∀ name t, q.find? name = some t ↔ t ∈ p.types ++ types ∧ t.name = name
  bridges : q.bridges = p.bridges

theorem find?_eq_some_iff {p : Palette} {name : String} {t : NodeType} :
    p.find? name = some t ↔ t ∈ p.types ∧ t.name = name :=
  find?_eq_some_iff_of_nodup p.nodup

theorem namedApart_types (p : Palette) : NamedApart p.types :=
  fun _ hs _ ht => List.inj_on_of_nodup_map p.nodup hs ht

namespace IsUnion

variable {p q r : Palette} {types types' : List NodeType}

theorem mem_types (h : p.IsUnion types q) (t : NodeType) :
    t ∈ q.types ↔ t ∈ p.types ++ types := by
  have hfind := h.find? t.name t
  rw [find?_eq_some_iff] at hfind
  simpa using hfind

theorem of_mem_types (h : ∀ t, t ∈ q.types ↔ t ∈ p.types ++ types)
    (hbridges : q.bridges = p.bridges) : p.IsUnion types q :=
  ⟨fun name t => by rw [find?_eq_some_iff, h], hbridges⟩

theorem trans (h : p.IsUnion types q) (h' : q.IsUnion types' r) :
    p.IsUnion (types ++ types') r := by
  refine of_mem_types (fun t => ?_) (h'.bridges.trans h.bridges)
  rw [h'.mem_types, List.mem_append, h.mem_types, ← List.mem_append, List.append_assoc]

theorem namedApart (h : p.IsUnion types q) : NamedApart (p.types ++ types) :=
  q.namedApart_types.mono fun t ht => (h.mem_types t).mpr ht

/-- A union is determined by the types that go into it. -/
theorem alike {q' : Palette} (h : p.IsUnion types q) (h' : p.IsUnion types' q')
    (hsame : ∀ t, t ∈ types' ↔ t ∈ types) : q'.Alike q := by
  refine ⟨fun name => Option.ext fun t => ?_, h'.bridges.trans h.bridges.symm⟩
  rw [h.find?, h'.find?, List.mem_append, List.mem_append, hsame]

end IsUnion

/-- Two different types under the name of a conflict. -/
def Conflicting (types : List NodeType) (c : Conflict) : Prop :=
  ∃ s ∈ types, ∃ t ∈ types, s.name = c.name ∧ t.name = c.name ∧ s ≠ t

theorem Conflicting.mono {types types' : List NodeType} {c : Conflict} (h : Conflicting types c)
    (hsub : types ⊆ types') : Conflicting types' c := by
  obtain ⟨s, hs, t, ht, hnames⟩ := h
  exact ⟨s, hsub hs, t, hsub ht, hnames⟩

theorem Conflicting.not_namedApart {types : List NodeType} {c : Conflict}
    (h : Conflicting types c) : ¬ NamedApart types := by
  intro hapart
  obtain ⟨s, hs, t, ht, hsname, htname, hne⟩ := h
  exact hne (hapart s hs t ht (hsname.trans htname.symm))

/-- What one registration does: it unites, or it names the type that another one stands in the way
of. -/
theorem register_cases (p : Palette) (t : NodeType) :
    (∃ q, p.register t = .ok q ∧ p.IsUnion [t] q) ∨
      ∃ c, p.register t = .error c ∧ Conflicting (p.types ++ [t]) c := by
  unfold register
  split
  · next known hknown =>
    obtain ⟨hmem, hname⟩ := find?_eq_some_iff.mp hknown
    split
    · next heq =>
      subst heq
      refine Or.inl ⟨p, rfl, .of_mem_types (fun s => ?_) rfl⟩
      rw [List.mem_append, List.mem_singleton]
      exact ⟨Or.inl, fun hs => hs.elim id fun e => e ▸ hmem⟩
    · next hne =>
      refine Or.inr ⟨_, rfl, known, List.mem_append_left _ hmem, t, ?_, hname, rfl, hne⟩
      exact List.mem_append_right _ (List.mem_singleton_self t)
  · exact Or.inl ⟨_, rfl, .of_mem_types (fun _ => Iff.rfl) rfl⟩

/-- What a run of registrations does, up to its first conflict. -/
theorem registerAll_cases (p : Palette) (types : List NodeType) :
    (∃ q, p.registerAll types = .ok q ∧ p.IsUnion types q) ∨
      ∃ c, p.registerAll types = .error c ∧ Conflicting (p.types ++ types) c := by
  unfold registerAll
  induction types generalizing p with
  | nil => exact Or.inl ⟨p, rfl, .of_mem_types (fun t => by rw [List.append_nil]) rfl⟩
  | cons t types ih =>
    rw [List.foldlM_cons]
    rcases register_cases p t with ⟨q, hq, hunion⟩ | ⟨c, hc, hconflict⟩
    · rw [hq]
      rcases ih q with ⟨r, hr, hrest⟩ | ⟨c, hc, hconflict⟩
      · exact Or.inl ⟨r, hr, hunion.trans hrest⟩
      · refine Or.inr ⟨c, hc, hconflict.mono fun s hs => ?_⟩
        rw [List.mem_append, hunion.mem_types, ← List.mem_append, List.append_assoc] at hs
        exact hs
    · rw [hc]
      refine Or.inr ⟨c, rfl, hconflict.mono fun s hs => ?_⟩
      rw [List.append_cons]
      exact List.mem_append_left _ hs

theorem isUnion_of_registerAll {p q : Palette} {types : List NodeType}
    (h : p.registerAll types = .ok q) : p.IsUnion types q := by
  rcases registerAll_cases p types with ⟨q', hq', hunion⟩ | ⟨c, hc, -⟩
  · obtain rfl := Except.ok.inj (h.symm.trans hq')
    exact hunion
  · cases h.symm.trans hc

theorem conflicting_of_registerAll {p : Palette} {types : List NodeType} {c : Conflict}
    (h : p.registerAll types = .error c) : Conflicting (p.types ++ types) c := by
  rcases registerAll_cases p types with ⟨q, hq, -⟩ | ⟨c', hc', hconflict⟩
  · cases h.symm.trans hq
  · obtain rfl := Except.error.inj (h.symm.trans hc')
    exact hconflict

theorem registerAll_accepts {p : Palette} {types : List NodeType} :
    (∃ q, p.registerAll types = .ok q) ↔ NamedApart (p.types ++ types) := by
  constructor
  · rintro ⟨q, hq⟩
    exact (isUnion_of_registerAll hq).namedApart
  · intro hapart
    cases h : p.registerAll types with
    | ok q => exact ⟨q, rfl⟩
    | error c => exact absurd hapart (conflicting_of_registerAll h).not_namedApart

/-- **Registering types is a consistent union.** It succeeds if and only if no two different types
have one name; then each name stands for its one type, and the bridges are as before. A refusal is
about a name that two different types have. Registering types in two parts gives the same palette or
the same refusal as registering them at once. Neither their order nor repetitions decide about
success or about what the palette knows. -/
theorem registerAll_consistent_union (p : Palette) (a b : List NodeType) :
    ((∃ q, p.registerAll a = .ok q) ↔ NamedApart (p.types ++ a)) ∧
    (∀ q, p.registerAll a = .ok q → p.IsUnion a q) ∧
    (∀ c, p.registerAll a = .error c → Conflicting (p.types ++ a) c) ∧
    p.registerAll (a ++ b) = (p.registerAll a >>= fun q => q.registerAll b) ∧
    ∀ a', (∀ t, t ∈ a' ↔ t ∈ a) →
      ((∃ q', p.registerAll a' = .ok q') ↔ ∃ q, p.registerAll a = .ok q) ∧
      ∀ q q', p.registerAll a = .ok q → p.registerAll a' = .ok q' → q'.Alike q := by
  refine ⟨registerAll_accepts, fun q => isUnion_of_registerAll,
    fun c => conflicting_of_registerAll, List.foldlM_append, ?_⟩
  intro a' hsame
  refine ⟨?_, fun q q' hq hq' => ?_⟩
  · have hmem : ∀ t, t ∈ p.types ++ a' ↔ t ∈ p.types ++ a := by
      intro t
      rw [List.mem_append, List.mem_append, hsame]
    rw [registerAll_accepts, registerAll_accepts]
    exact ⟨fun h => h.mono fun t => (hmem t).mpr, fun h => h.mono fun t => (hmem t).mp⟩
  · exact (isUnion_of_registerAll hq).alike (isUnion_of_registerAll hq') hsame

/-- One of the types is there already, and others come twice in `a'`. The second part `b` conflicts
with what the first one has registered. -/
theorem registerAll_consistent_union_of_repeated :
    let getter : NodeType := { name := "Getter", role := .read, category := .memory }
    let probe : NodeType := { name := "Probe", role := .custom, category := .memory }
    let gate (role : Role) : NodeType := { name := "Gate", role, category := .logic }
    let p : Palette := ⟨[getter], [(.read, .assign)], by decide⟩
    let q : Palette := ⟨[getter, probe, gate .custom], [(.read, .assign)], by decide⟩
    let q' : Palette := ⟨[getter, gate .custom, probe], [(.read, .assign)], by decide⟩
    let a := [probe, getter, gate .custom]
    let a' := [gate .custom, probe, gate .custom, getter, probe]
    let b := [probe, gate .operation]
    p.registerAll a = .ok q ∧ p.registerAll a' = .ok q' ∧ (∀ t, t ∈ a' ↔ t ∈ a) ∧
      NamedApart (p.types ++ a) ∧ p.IsUnion a q ∧ q'.Alike q ∧
      ¬ NamedApart (p.types ++ (a ++ b)) ∧ q.registerAll b = .error ⟨"Gate"⟩ ∧
      p.registerAll (a ++ b) = .error ⟨"Gate"⟩ := by
  intro getter probe gate p q q' a a' b
  have hq : p.registerAll a = .ok q := rfl
  have hq' : p.registerAll a' = .ok q' := rfl
  have hsame : ∀ t, t ∈ a' ↔ t ∈ a := by
    intro t
    simp only [a, a', List.mem_cons, List.not_mem_nil, or_false]
    tauto
  obtain ⟨haccepts, hunion, -, happend, horder⟩ := registerAll_consistent_union p a b
  refine ⟨hq, hq', hsame, haccepts.mp ⟨q, hq⟩, hunion q hq, (horder a' hsame).2 q q' hq hq',
    by decide, rfl, ?_⟩
  rw [happend, hq]
  rfl

end Palette

end Blueprint
