import Blueprint.Preview.Basic
import Blueprint.Proofs.Execution

/-!
# Proofs: settling the variables

The table of resolutions is a solution of the equations that define them: the resolution of each
declared variable is the one made from the table itself. Two things carry this. A resolution looks
only at the variables that are needed for it, so it stays right when the table grows; and no
variable needs itself, so a variable that is not in the table is never under way already.
-/

namespace Blueprint

/-- What a supply gives, by the resolutions of other variables and the default. -/
def Supply.produced (look : String → Resolution) (default : Value) : Supply → Produced
  | .several => ⟨default, .ambiguous⟩
  | .computed => ⟨default, .unknown⟩
  | .copied w =>
    if (look w).status = .unknown then ⟨default, .unknown⟩
    else ⟨(look w).value, (look w).status⟩
  | .own none => ⟨default, .resolved⟩
  | .own (some v) => ⟨v, .resolved⟩

namespace Survey

open Relation

/-- What an assignment produces is what its supply gives: the value that is followed is that of the
variable that counts as copied. -/
theorem produced_eq (s : Survey) (look : String → Resolution) (default : Value) (n : Node) :
    s.produced look default n = (s.execution.supply s.palette n).produced look default := by
  unfold produced Execution.supply
  rcases s.execution.feeds n with _ | ⟨e, _ | ⟨e', rest⟩⟩
  · cases n.override? <;> rfl
  · dsimp only [traced, Execution.origin]
    cases s.execution.diagram.node? e.source with
    | none => rfl
    | some source =>
      cases hp : s.palette.isVariable source <;> cases hb : source.boundTo? <;>
        simp [Supply.produced, hp, hb]
  · rfl

/-- The resolution of `w` is needed for that of `v`. -/
def Needs (s : Survey) (v w : String) : Prop := w ∈ s.needs v

/-- There is a declaration of the variable. -/
def Declared (s : Survey) (v : String) : Prop := ∃ declared, s.declaration? v = some declared

/-- Making the resolution of `v` looks at that of `w`: nothing keeps the assignments of `v` from
being looked at, and one of them copies `w`. -/
structure Consults (s : Survey) (v w : String) : Prop where
  declared : s.Declared v
  entry : s.hasEntry = true
  ordered : ¬ s.execution.isTainted v = true
  free : v ∉ s.entangled
  copied : ∃ n ∈ s.execution.assignments v, s.execution.supply s.palette n = .copied w

theorem declared_iff {s : Survey} {v : String} :
    s.Declared v ↔ v ∈ declaredIds s.declarations := by
  unfold Declared declaration? declaredIds
  rw [← Option.isSome_iff_exists, List.find?_isSome, List.mem_eraseDups, List.mem_map]
  simp

theorem declaration?_id {s : Survey} {v : String} {declared : Declaration}
    (h : s.declaration? v = some declared) : declared.id = v := by
  simpa using List.find?_some h

/-! ## The three ways to a resolution -/

section Resolve

variable {s : Survey} {look : String → Resolution} {declared : Declaration}

theorem resolve_of_no_entry (h : ¬ s.hasEntry = true) :
    s.resolve look declared = ⟨declared.default, .unknown, none, []⟩ := by
  simp [resolve, h]

theorem resolve_of_stopped (hentry : s.hasEntry = true)
    (h : s.execution.isTainted declared.id = true ∨ declared.id ∈ s.entangled) :
    s.resolve look declared = ⟨declared.default, .unknown, none,
      (s.execution.assignments declared.id).map (·.id)⟩ := by
  simp [resolve, hentry, h]

theorem resolve_of_ordered (hentry : s.hasEntry = true)
    (hordered : ¬ s.execution.isTainted declared.id = true) (hfree : declared.id ∉ s.entangled) :
    s.resolve look declared = Produced.combine declared.default
      ((s.execution.assignments declared.id).map (·.id))
      ((s.execution.assignments declared.id).map fun n =>
        (s.execution.supply s.palette n).produced look declared.default) := by
  rw [← funext (s.produced_eq look declared.default)]
  simp [resolve, hentry, hordered, hfree]

/-- Which of the three it is, with all that is then known. -/
theorem resolve_cases (s : Survey) (look : String → Resolution) (declared : Declaration) :
    (¬ s.hasEntry = true ∧
      s.resolve look declared = ⟨declared.default, .unknown, none, []⟩) ∨
    (s.hasEntry = true ∧
      (s.execution.isTainted declared.id = true ∨ declared.id ∈ s.entangled) ∧
      s.resolve look declared = ⟨declared.default, .unknown, none,
        (s.execution.assignments declared.id).map (·.id)⟩) ∨
    (s.hasEntry = true ∧
      (¬ s.execution.isTainted declared.id = true ∧ declared.id ∉ s.entangled) ∧
      s.resolve look declared = Produced.combine declared.default
        ((s.execution.assignments declared.id).map (·.id))
        ((s.execution.assignments declared.id).map fun n =>
          (s.execution.supply s.palette n).produced look declared.default)) := by
  by_cases hentry : s.hasEntry = true
  · by_cases hstop : s.execution.isTainted declared.id = true ∨ declared.id ∈ s.entangled
    · exact Or.inr (Or.inl ⟨hentry, hstop, resolve_of_stopped hentry hstop⟩)
    · obtain ⟨hordered, hfree⟩ := not_or.mp hstop
      exact Or.inr (Or.inr ⟨hentry, ⟨hordered, hfree⟩, resolve_of_ordered hentry hordered hfree⟩)
  · exact Or.inl ⟨hentry, resolve_of_no_entry hentry⟩

end Resolve

/-- What makes it possible to settle the variables one after the other: none of them needs itself,
and a resolution depends on the needed ones only. -/
structure Ordered (s : Survey) : Prop where
  acyclic : ∀ v, ¬ TransGen s.Needs v v
  resolve_congr : ∀ declared look look', s.Declared declared.id →
    (∀ w, s.Needs declared.id w → look w = look' w) →
    s.resolve look declared = s.resolve look' declared

/-- A relation without cycles that leads only away from the members of a list has no endless
descent. -/
theorem wellFounded_of_acyclic {r : String → String → Prop} (xs : List String)
    (hmem : ∀ v w, r v w → v ∈ xs) (hacyclic : ∀ v, ¬ TransGen r v v) :
    WellFounded fun w v => r v w := by
  have hwf : WellFounded fun w v : { v // v ∈ xs } => TransGen r v.1 w.1 := by
    have : IsTrans { v // v ∈ xs } fun w v => TransGen r v.1 w.1 :=
      ⟨fun _ _ _ hab hbc => hbc.trans hab⟩
    have : Std.Irrefl fun w v : { v // v ∈ xs } => TransGen r v.1 w.1 := ⟨fun v => hacyclic v.1⟩
    exact Finite.wellFounded_of_trans_of_irrefl _
  have hout : ∀ v, v ∉ xs → Acc (fun w v => r v w) v :=
    fun v hv => ⟨v, fun w hw => absurd (hmem v w hw) hv⟩
  have hin : ∀ v : { v // v ∈ xs }, Acc (fun w v => r v w) v.1 := by
    intro v
    induction v using hwf.induction with
    | _ v ih =>
      refine ⟨v.1, fun w hw => ?_⟩
      by_cases hwx : w ∈ xs
      · exact ih ⟨w, hwx⟩ (.single hw)
      · exact hout w hwx
  refine ⟨fun v => ?_⟩
  by_cases hv : v ∈ xs
  · exact hin ⟨v, hv⟩
  · exact hout v hv

/-! ## Tables -/

namespace Table

/-- There is a resolution of the variable in the table. -/
def Has (table : Table) (v : String) : Prop := (List.lookup v table).isSome = true

theorem has_cons {table : Table} {v w : String} {r : Resolution} :
    Has ((v, r) :: table) w ↔ w = v ∨ table.Has w := by
  unfold Has
  by_cases h : w = v
  · simp [h]
  · have hb : (w == v) = false := by simpa using h
    simp [List.lookup_cons, hb, h]

theorem look_cons_self (table : Table) (v : String) (r : Resolution) :
    look ((v, r) :: table) v = r := by
  simp [look]

theorem look_cons_of_ne {table : Table} {v w : String} (r : Resolution) (h : w ≠ v) :
    look ((v, r) :: table) w = table.look w := by
  have hb : (w == v) = false := by simpa using h
  simp [look, List.lookup_cons, hb]

theorem look_of_not_has {table : Table} {v : String} (h : ¬ table.Has v) :
    table.look v = .undeclared := by
  unfold Has at h
  unfold look
  rw [Option.not_isSome_iff_eq_none] at h
  rw [h]
  rfl

end Table

/-- A table that holds declared variables only, with each of them the declared ones that it needs,
and whose resolutions are those made from the table itself. -/
structure Settled (s : Survey) (table : Table) : Prop where
  declared : ∀ v, table.Has v → s.Declared v
  needs : ∀ v w, table.Has v → s.Needs v w → s.Declared w → table.Has w
  look_eq : ∀ v declared, table.Has v → s.declaration? v = some declared →
    table.look v = s.resolve table.look declared

theorem settled_nil (s : Survey) : Settled s [] := by
  refine ⟨?_, ?_, ?_⟩ <;> intro v <;> simp [Table.Has]

/-- A variable whose needs are met can be added. -/
theorem Settled.cons {s : Survey} {table : Table} (h : Settled s table) (ho : s.Ordered)
    {v : String} {declared : Declaration} (hd : s.declaration? v = some declared)
    (hv : ¬ table.Has v) (hneeds : ∀ w, s.Needs v w → s.Declared w → table.Has w) :
    Settled s ((v, s.resolve table.look declared) :: table) := by
  -- no variable of the larger table needs the new one, so the old resolutions are still right
  have hagree : ∀ u, (∀ w, s.Needs u w → s.Declared w → table.Has w) →
      ∀ declared', s.declaration? u = some declared' →
      s.resolve table.look declared' =
        s.resolve (Table.look ((v, s.resolve table.look declared) :: table)) declared' := by
    intro u hu declared' hd'
    have hid := declaration?_id hd'
    apply ho.resolve_congr declared' _ _ (hid ▸ ⟨declared', hd'⟩)
    intro w hw
    rw [hid] at hw
    have hne : w ≠ v := fun e => hv (hu v (e ▸ hw) ⟨declared, hd⟩)
    rw [Table.look_cons_of_ne _ hne]
  refine ⟨?_, ?_, ?_⟩
  · intro u hu
    rcases Table.has_cons.mp hu with rfl | hu
    · exact ⟨declared, hd⟩
    · exact h.declared u hu
  · intro u w hu hw hdw
    refine Table.has_cons.mpr (Or.inr ?_)
    rcases Table.has_cons.mp hu with rfl | hu
    · exact hneeds w hw hdw
    · exact h.needs u w hu hw hdw
  · intro u declared' hu hd'
    by_cases huv : u = v
    · subst huv
      rw [hd] at hd'
      cases hd'
      rw [Table.look_cons_self]
      exact hagree u hneeds declared hd
    · have hu' : table.Has u := (Table.has_cons.mp hu).resolve_left huv
      rw [Table.look_cons_of_ne _ huv, h.look_eq u declared' hu' hd']
      exact hagree u (fun w => h.needs u w hu') declared' hd'

/-! ## The run -/

/-- What settling the variables `todo` makes of a table. -/
structure SettledBy (s : Survey) (todo pending : List String) (table table' : Table) : Prop where
  settled : Settled s table'
  mono : ∀ v, table.Has v → table'.Has v
  new : ∀ v, table'.Has v → table.Has v ∨ v ∈ pending
  todo_has : ∀ t ∈ todo, s.Declared t → table'.Has t

/-- What must hold before the variables `todo` are settled: the pending variables are declared, and
every declared variable that is not pending waits for those to do. -/
structure Waiting (s : Survey) (todo pending : List String) : Prop where
  nodup : pending.Nodup
  declared : ∀ u ∈ pending, s.Declared u
  waits : ∀ u, s.Declared u → u ∉ pending → ∀ t ∈ todo, TransGen s.Needs u t

namespace Waiting

variable {s : Survey} {v : String} {todo pending : List String}

theorem tail (h : Waiting s (v :: todo) pending) : Waiting s todo pending :=
  ⟨h.nodup, h.declared, fun u hu hp t ht => h.waits u hu hp t (List.mem_cons_of_mem _ ht)⟩

/-- A variable that is no longer pending waits for those that it needs. -/
theorem below (h : Waiting s (v :: todo) pending) : Waiting s (s.needs v) (pending.erase v) := by
  refine ⟨h.nodup.erase v, fun u hu => h.declared u (List.mem_of_mem_erase hu), ?_⟩
  intro u hu hp t ht
  by_cases huv : u = v
  · exact huv ▸ .single ht
  · have hp' : u ∉ pending := fun hm => hp ((List.mem_erase_of_ne huv).mpr hm)
    exact (h.waits u hu hp' v (List.mem_cons_self ..)).tail ht

end Waiting

theorem SettledBy.cons {s : Survey} {v : String} {todo pending : List String}
    {table table' : Table} (h : SettledBy s todo pending table table')
    (hv : s.Declared v → table'.Has v) : SettledBy s (v :: todo) pending table table' := by
  refine ⟨h.settled, h.mono, h.new, fun t ht hd => ?_⟩
  rcases List.mem_cons.mp ht with rfl | ht
  · exact hv hd
  · exact h.todo_has t ht hd

/-- Every run of `settle` meets its specification. -/
theorem settledBy_settle {s : Survey} (ho : s.Ordered) {todo pending : List String} {table : Table}
    (hs : Settled s table) (hw : Waiting s todo pending) :
    SettledBy s todo pending table (s.settle todo pending table) := by
  fun_induction settle s todo pending table with
  | case1 pending table => exact ⟨hs, fun _ h => h, fun _ h => Or.inl h, by simp⟩
  | case2 v todo pending table hv ih =>
    have h := ih hs hw.tail
    exact h.cons fun _ => h.mono v hv
  | case3 v todo pending table hv hpending table₁ declared hd ihb iht =>
    have hb : SettledBy s (s.needs v) (pending.erase v) table table₁ := ihb hs hw.below
    have hv₁ : ¬ table₁.Has v := fun hh => by
      rcases hb.new v hh with hh | hh
      · exact hv hh
      · exact hw.nodup.not_mem_erase hh
    have h := iht (hb.settled.cons ho hd hv₁ fun w hw => hb.todo_has w hw) hw.tail
    refine SettledBy.cons ⟨h.settled, fun u hu => ?_, fun u hu => ?_, h.todo_has⟩ fun _ => ?_
    · exact h.mono u (Table.has_cons.mpr (Or.inr (hb.mono u hu)))
    · rcases h.new u hu with hu | hu
      · rcases Table.has_cons.mp hu with rfl | hu
        · exact Or.inr hpending
        · exact (hb.new u hu).imp_right List.mem_of_mem_erase
      · exact Or.inr hu
    · exact h.mono v (Table.has_cons.mpr (Or.inl rfl))
  | case4 v todo pending table hv hpending table₁ hd ihb iht =>
    obtain ⟨declared, hd'⟩ := hw.declared v hpending
    rw [hd] at hd'
    cases hd'
  | case5 v todo pending table hv hpending ih =>
    -- a declared variable that is not pending would be waiting for itself
    refine (ih hs hw.tail).cons fun hd => ?_
    exact absurd (hw.waits v hd hpending v (List.mem_cons_self ..)) (ho.acyclic v)

/-! ## The whole table -/

/-- Whatever is settled from the start, in whatever order, ends in a settled table that holds it. -/
theorem settledBy_starts {s : Survey} (ho : s.Ordered) (starts : List String) :
    SettledBy s starts (declaredIds s.declarations) []
      (s.settle starts (declaredIds s.declarations) []) := by
  refine settledBy_settle ho (settled_nil s) ⟨Links.nodup_eraseDups _, ?_, ?_⟩
  · intro u hu
    exact declared_iff.mpr hu
  · intro u hu hp
    exact absurd (declared_iff.mp hu) hp

theorem settledBy_table {s : Survey} (ho : s.Ordered) :
    SettledBy s (declaredIds s.declarations) (declaredIds s.declarations) [] s.table :=
  settledBy_starts ho _

/-- The table solves the equations of the resolutions. -/
theorem table_look_of_declared {s : Survey} (ho : s.Ordered) {v : String} {declared : Declaration}
    (h : s.declaration? v = some declared) :
    s.table.look v = s.resolve s.table.look declared := by
  have hb := settledBy_table ho
  have hd : s.Declared v := ⟨declared, h⟩
  exact hb.settled.look_eq v declared (hb.todo_has v (declared_iff.mp hd) hd) h

theorem table_look_of_undeclared {s : Survey} (ho : s.Ordered) {v : String}
    (h : ¬ s.Declared v) : s.table.look v = .undeclared :=
  Table.look_of_not_has fun hv => h ((settledBy_table ho).settled.declared v hv)

/-- Two tables compare variable by variable, along what the first one needs: it is enough to look at
variables that a set `P` closed under needs holds, and to go from what is needed to what needs
it. -/
theorem table_look_related {s s' : Survey} (ho : s.Ordered) (ho' : s'.Ordered)
    (hwf : WellFounded fun w v => s.Needs v w) {P : String → Prop}
    {R : Resolution → Resolution → Prop} (hP : ∀ v w, P v → s.Needs v w → P w)
    (hdeclared : ∀ v, P v → (s.Declared v ↔ s'.Declared v))
    (hundeclared : R .undeclared .undeclared)
    (hresolve : ∀ v declared declared', P v → s.declaration? v = some declared →
      s'.declaration? v = some declared' →
      (∀ w, s.Needs v w → R (s.table.look w) (s'.table.look w)) →
      R (s.resolve s.table.look declared) (s'.resolve s'.table.look declared'))
    {v : String} (hv : P v) : R (s.table.look v) (s'.table.look v) := by
  induction v using hwf.induction with
  | _ v ih =>
    by_cases hd : s.Declared v
    · obtain ⟨declared', hfound'⟩ := (hdeclared v hv).mp hd
      obtain ⟨declared, hfound⟩ := hd
      rw [table_look_of_declared ho hfound, table_look_of_declared ho' hfound']
      exact hresolve v declared declared' hv hfound hfound' fun w hw => ih w hw (hP v w hv hw)
    · have hd' : ¬ s'.Declared v := fun h => hd ((hdeclared v hv).mpr h)
      rw [table_look_of_undeclared ho hd, table_look_of_undeclared ho' hd']
      exact hundeclared

/-! ## Surveys of diagrams -/

section Of

variable {d : Diagram} {p : Palette} {declarations : List Declaration}

@[simp]
theorem of_execution : (of d p declarations).execution = Execution.of d := rfl

@[simp]
theorem of_palette : (of d p declarations).palette = p := rfl

/-- A declared variable is linked to those it reads, unless some assignment of it has no order. -/
theorem step_copyLinks {v w : String} :
    (of d p declarations).copyLinks.Step v w ↔
      v ∈ declaredIds declarations ∧ (¬ ∃ n, d.Assigns n v ∧ d.Unordered n.id) ∧
        d.Reads p v w := by
  show w ∈ Links.next (linksOf (Execution.of d) p declarations) v ↔ _
  unfold linksOf
  rw [Links.mem_next_map, ← Execution.isTainted_iff, ← Execution.mem_copies]
  refine and_congr_right fun _ => ?_
  cases (Execution.of d).isTainted v <;> simp

/-- The entangled variables are those that are linked to themselves by one step or more. -/
theorem mem_entangled {v : String} :
    v ∈ (of d p declarations).entangled ↔ TransGen (of d p declarations).copyLinks.Step v v := by
  show v ∈ (of d p declarations).copyLinks.looping (declaredIds declarations) ↔ _
  rw [Links.mem_looping_iff]
  refine ⟨fun h => h.2, fun h => ⟨?_, h⟩⟩
  obtain ⟨w, hstep, -⟩ := TransGen.head'_iff.mp h
  exact ⟨v, (step_copyLinks.mp hstep).1, .refl⟩

theorem needs_iff {v w : String} :
    (of d p declarations).Needs v w ↔
      v ∉ (of d p declarations).entangled ∧ (of d p declarations).copyLinks.Step v w := by
  unfold Needs needs Links.Step
  by_cases h : v ∈ (of d p declarations).entangled <;> simp [h]

theorem hasEntry_iff :
    (of d p declarations).hasEntry = true ↔ ∃ n ∈ d.nodes, n.role = .entry := by
  unfold hasEntry
  rw [Bool.not_eq_true', ← Bool.not_eq_true, List.isEmpty_iff, of_execution, Execution.of_diagram,
    Diagram.entryIds_eq_nil, not_not]

/-- The links that are searched for circles leave out nothing that a resolution looks at. -/
theorem consults_iff_needs {v w : String} :
    (of d p declarations).Consults v w ↔ (of d p declarations).Needs v w := by
  rw [needs_iff, step_copyLinks, ← Execution.isTainted_iff]
  constructor
  · rintro ⟨hd, -, hordered, hfree, n, hn, hs⟩
    obtain ⟨e, hf, hc⟩ := Execution.supply_eq_copied.mp hs
    exact ⟨hfree, declared_iff.mp hd, hordered, n, e, Execution.mem_assignments.mp hn, hf, hc⟩
  · rintro ⟨hfree, hd, hordered, n, e, hn, hf, hc⟩
    obtain ⟨entry, hentry, hrole, -⟩ := hn.reached
    have hstart : (of d p declarations).hasEntry = true :=
      hasEntry_iff.mpr ⟨entry, hentry, hrole⟩
    refine ⟨declared_iff.mpr hd, hstart, hordered, hfree, n, ?_, ?_⟩
    · exact Execution.mem_assignments.mpr hn
    · exact Execution.supply_eq_copied.mpr ⟨e, hf, hc⟩

/-- Entangled variables need nothing, so no variable needs itself. -/
theorem needs_acyclic (v : String) : ¬ TransGen (of d p declarations).Needs v v := by
  intro h
  obtain ⟨w, hvw, -⟩ := TransGen.head'_iff.mp h
  have hloop : TransGen (of d p declarations).copyLinks.Step v v :=
    TransGen.mono (fun _ _ hn => (needs_iff.mp hn).2) _ _ h
  exact (needs_iff.mp hvw).1 (mem_entangled.mpr hloop)

/-- Only the finitely many declared variables need others, so needs come to an end. -/
theorem needs_wellFounded (d : Diagram) (p : Palette) (declarations : List Declaration) :
    WellFounded fun w v => (of d p declarations).Needs v w := by
  refine wellFounded_of_acyclic (declaredIds declarations) (fun v w h => ?_) needs_acyclic
  exact (step_copyLinks.mp (needs_iff.mp h).2).1

/-- What an assignment produces depends on the variable that it copies, if it copies one. -/
theorem produced_congr {look look' : String → Resolution} {supply : Supply} (default : Value)
    (h : ∀ w, supply = .copied w → look w = look' w) :
    supply.produced look default = supply.produced look' default := by
  cases supply with
  | copied w => simp only [Supply.produced, h w rfl]
  | several => rfl
  | computed => rfl
  | own entered => cases entered <;> rfl

/-- A resolution looks at the needed ones only. -/
theorem resolve_congr {declared : Declaration} {look look' : String → Resolution}
    (hd : (of d p declarations).Declared declared.id)
    (hlook : ∀ w, (of d p declarations).Needs declared.id w → look w = look' w) :
    (of d p declarations).resolve look declared = (of d p declarations).resolve look' declared := by
  by_cases hentry : (of d p declarations).hasEntry = true
  swap
  · rw [resolve_of_no_entry hentry, resolve_of_no_entry hentry]
  by_cases hstop : (of d p declarations).execution.isTainted declared.id = true ∨
      declared.id ∈ (of d p declarations).entangled
  · rw [resolve_of_stopped hentry hstop, resolve_of_stopped hentry hstop]
  obtain ⟨hordered, hfree⟩ := not_or.mp hstop
  rw [resolve_of_ordered hentry hordered hfree, resolve_of_ordered hentry hordered hfree]
  congr 1
  refine List.map_congr_left fun n hn => produced_congr _ fun w hw => hlook w ?_
  exact consults_iff_needs.mp ⟨hd, hentry, hordered, hfree, n, hn, hw⟩

theorem ordered_of (d : Diagram) (p : Palette) (declarations : List Declaration) :
    (of d p declarations).Ordered :=
  ⟨needs_acyclic, fun _ _ _ => resolve_congr⟩

end Of

end Survey

end Blueprint
