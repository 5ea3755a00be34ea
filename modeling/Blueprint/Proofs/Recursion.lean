import Blueprint.Proofs.Resolved

/-!
# Proofs: the recursion behind the preview

The resolution of a variable is made from those of the variables that it consults, and `Evaluates`
is that recursion with nothing added to it. `settle` adds two things: a table of what is finished,
and the list of pending variables, which would stop a variable from being entered while it is under
way. The first never changes a resolution. The second never stops anything: at every moment of a
run (`Moment`) what is under way is a chain of needs (`Nested`), and a variable that came up again
would close a circle.
-/

namespace Blueprint

open Relation

namespace Survey

/-- The plain recursion: without a declaration there is nothing to tell, and the resolution of a
declared variable is made from those of the variables that it consults, each evaluated anew. -/
inductive Evaluates (s : Survey) : String → Resolution → Prop
  /-- A variable that is not declared. -/
  | undeclared {v : String} (none : ¬ s.Declared v) : Evaluates s v .undeclared
  /-- A declared variable. -/
  | declared {v : String} {declared : Declaration} {look : String → Resolution}
    (found : s.declaration? v = some declared)
    (below : ∀ w, s.Consults v w → Evaluates s w (look w)) :
    Evaluates s v (s.resolve look declared)

/-- A moment of the run that settles `starts`: the variables under way, the last one entered first,
and what `settle` is called with. -/
inductive Moment (s : Survey) (starts : List String) :
    (path todo pending : List String) → Table → Prop
  /-- The run begins. -/
  | start : Moment s starts [] starts (declaredIds s.declarations) []
  /-- A variable is in the table already. -/
  | known {path todo pending table v} (h : Moment s starts path (v :: todo) pending table)
    (has : table.Has v) : Moment s starts path todo pending table
  /-- A variable is entered: those that it needs are settled first. -/
  | enter {path todo pending table v} (h : Moment s starts path (v :: todo) pending table)
    (new : ¬ table.Has v) (free : v ∈ pending) :
    Moment s starts (v :: path) (s.needs v) (pending.erase v) table
  /-- A variable that was entered is added to the table. -/
  | leave {path todo pending table below v declared}
    (h : Moment s starts path (v :: todo) pending table) (new : ¬ table.Has v) (free : v ∈ pending)
    (settled : below = s.settle (s.needs v) (pending.erase v) table)
    (found : s.declaration? v = some declared) :
    Moment s starts path todo pending ((v, s.resolve below.look declared) :: below)
  /-- A variable that was entered turns out to have no declaration. -/
  | unfound {path todo pending table below v}
    (h : Moment s starts path (v :: todo) pending table) (new : ¬ table.Has v) (free : v ∈ pending)
    (settled : below = s.settle (s.needs v) (pending.erase v) table)
    (none : s.declaration? v = none) : Moment s starts path todo pending below
  /-- A variable is passed over: it is not declared, or it is under way. -/
  | pass {path todo pending table v} (h : Moment s starts path (v :: todo) pending table)
    (new : ¬ table.Has v) (busy : v ∉ pending) : Moment s starts path todo pending table

/-! ## Moments belong to the run -/

section Settle

variable {s : Survey} {starts path todo pending : List String} {table : Table} {v : String}

theorem settle_of_known (has : table.Has v) :
    s.settle (v :: todo) pending table = s.settle todo pending table := by
  rw [settle]
  exact if_pos has

theorem settle_of_busy (new : ¬ table.Has v) (busy : v ∉ pending) :
    s.settle (v :: todo) pending table = s.settle todo pending table := by
  rw [settle, dif_neg busy]
  exact if_neg new

theorem settle_of_free (new : ¬ table.Has v) (free : v ∈ pending) :
    s.settle (v :: todo) pending table =
      let below := s.settle (s.needs v) (pending.erase v) table
      match s.declaration? v with
      | some declared => s.settle todo pending ((v, s.resolve below.look declared) :: below)
      | none => s.settle todo pending below := by
  rw [settle, dif_pos free]
  exact if_neg new

/-- The table that is asked for: by the variable that was entered last, or by the whole run. -/
def Asked (s : Survey) (starts : List String) : (path : List String) → Table → Prop
  | [], result => result = s.settle starts (declaredIds s.declarations) []
  | v :: path, result => ∃ todo pending table, Moment s starts path (v :: todo) pending table ∧
      ¬ table.Has v ∧ v ∈ pending ∧ result = s.settle (s.needs v) (pending.erase v) table

theorem Moment.asked (h : Moment s starts path todo pending table) :
    Asked s starts path (s.settle todo pending table) := by
  induction h with
  | start => rfl
  | known _ has ih => exact settle_of_known has ▸ ih
  | enter h new free => exact ⟨_, _, _, h, new, free, rfl⟩
  | leave _ new free settled found ih =>
    rw [settle_of_free new free, ← settled, found] at ih
    exact ih
  | unfound _ new free settled none ih =>
    rw [settle_of_free new free, ← settled, none] at ih
    exact ih
  | pass _ new busy ih => exact settle_of_busy new busy ▸ ih

end Settle

/-! ## What is under way -/

/-- The variables under way need one another in turn, the last one needs all that is to do, and
pending are the declared variables that are not under way. -/
structure Nested (s : Survey) (path todo pending : List String) : Prop where
  chain : path.IsChain fun w v => s.Needs v w
  needed : ∀ v ∈ path.head?, ∀ t ∈ todo, s.Needs v t
  nodup : pending.Nodup
  pending_iff : ∀ u, u ∈ pending ↔ s.Declared u ∧ u ∉ path

namespace Nested

variable {s : Survey} {v : String} {path todo pending : List String}

theorem tail (h : Nested s path (v :: todo) pending) : Nested s path todo pending :=
  ⟨h.chain, fun u hu t ht => h.needed u hu t (List.mem_cons_of_mem _ ht), h.nodup, h.pending_iff⟩

theorem chain_cons (h : Nested s path (v :: todo) pending) :
    (v :: path).IsChain fun w v => s.Needs v w :=
  h.chain.cons fun u hu => h.needed u hu v (List.mem_cons_self ..)

theorem enter (h : Nested s path (v :: todo) pending) :
    Nested s (v :: path) (s.needs v) (pending.erase v) := by
  refine ⟨h.chain_cons, ?_, h.nodup.erase v, fun u => ?_⟩
  · intro u hu t ht
    have huv : v = u := by simpa using hu
    exact huv ▸ ht
  · rw [h.nodup.mem_erase_iff, h.pending_iff, List.mem_cons, not_or]
    tauto

/-- No variable comes up while it is under way. -/
theorem nodup_cons (h : Nested s path (v :: todo) pending)
    (hacyclic : ∀ u, ¬ TransGen s.Needs u u) : (v :: path).Nodup := by
  have hbelow : (v :: path).Pairwise fun w u => TransGen s.Needs u w := by
    have : IsTrans String fun w u => TransGen s.Needs u w := ⟨fun _ _ _ hab hbc => hbc.trans hab⟩
    refine List.IsChain.pairwise ?_
    exact h.chain_cons.imp fun _ _ hn => .single hn
  -- a variable that stood here twice would need itself
  refine hbelow.imp fun {w u} hwalk heq => ?_
  exact hacyclic u (heq ▸ hwalk)

end Nested

theorem Moment.nested {s : Survey} {starts path todo pending : List String} {table : Table}
    (h : Moment s starts path todo pending table) : Nested s path todo pending := by
  induction h with
  | start =>
    refine ⟨.nil, by simp, Links.nodup_eraseDups _, fun u => ?_⟩
    rw [declared_iff]
    simp
  | known _ _ ih => exact ih.tail
  | enter _ _ _ ih => exact ih.enter
  | leave _ _ _ _ _ ih => exact ih.tail
  | unfound _ _ _ _ _ ih => exact ih.tail
  | pass _ _ _ ih => exact ih.tail

/-! ## The plain recursion -/

section Of

variable {d : Diagram} {p : Palette} {declarations : List Declaration} {v : String}

theorem Evaluates.unique {r r' : Resolution} (h : Evaluates (of d p declarations) v r)
    (h' : Evaluates (of d p declarations) v r') : r = r' := by
  induction h generalizing r' with
  | undeclared hnone =>
    cases h' with
    | undeclared => rfl
    | declared found => exact absurd ⟨_, found⟩ hnone
  | @declared v declared look found below ih =>
    cases h' with
    | undeclared hnone => exact absurd ⟨_, found⟩ hnone
    | @declared _ declared' look' found' below' =>
      rw [found] at found'
      cases found'
      have hid := declaration?_id found
      refine resolve_congr (hid ▸ ⟨declared, found⟩) fun w hw => ?_
      have hconsults := consults_iff_needs.mpr (hid ▸ hw)
      exact ih w hconsults (below' w hconsults)

/-- Whatever is in a settled table is what the plain recursion gives, and so is what is missing
because it is not declared. -/
theorem Settled.evaluates {table : Table} (h : Settled (of d p declarations) table)
    (hv : (of d p declarations).Declared v → table.Has v) :
    Evaluates (of d p declarations) v (table.look v) := by
  induction v using (needs_wellFounded d p declarations).induction with
  | _ v ih =>
    by_cases hd : (of d p declarations).Declared v
    · obtain ⟨declared, found⟩ := hd
      have hhas := hv ⟨declared, found⟩
      rw [h.look_eq v declared hhas found]
      refine .declared found fun w hw => ?_
      have hneeds := consults_iff_needs.mp hw
      exact ih w hneeds (h.needs v w hhas hneeds)
    · rw [Table.look_of_not_has fun hhas => hd (h.declared v hhas)]
      exact .undeclared hd

/-- Whatever is settled before it, a declared variable is found as the plain recursion gives it. -/
theorem evaluates_settle {starts : List String} (hv : v ∈ starts) :
    Evaluates (of d p declarations) v
      (((of d p declarations).settle starts (declaredIds declarations) []).look v) := by
  have hsettled := settledBy_starts (ordered_of d p declarations) starts
  exact hsettled.settled.evaluates fun hd => hsettled.todo_has v hv hd

end Of

end Survey

/-- **The recursion ends, and the table only saves work.** Whatever variables a run starts with, and
at every moment of it: what is settled is what was asked for, the variables under way consult one
another in turn, the one that comes up is none of them, and if it is declared it is still pending.
The resolution in the preview of a declared variable is the only one that the plain recursion gives,
and it is found again after any other variables were settled. -/
theorem Diagram.preview_eq_plain_recursion (d : Diagram) (p : Palette)
    (declarations : List Declaration) :
    let s := Survey.of d p declarations
    (∀ starts path v todo pending table, s.Moment starts path (v :: todo) pending table →
      s.Asked starts path (s.settle (v :: todo) pending table) ∧
      (v :: path).IsChain (fun w u => s.Consults u w) ∧ (v :: path).Nodup ∧
      (s.Declared v → v ∈ pending)) ∧
    ∀ v, (∃ declared ∈ declarations, declared.id = v) →
      ∃ r, (d.preview p declarations).lookup v = some r ∧ (∀ r', s.Evaluates v r' ↔ r' = r) ∧
        ∀ before, (s.settle (before ++ [v]) (Survey.declaredIds declarations) []).look v = r := by
  intro s
  constructor
  · intro starts path v todo pending table h
    have hnested := h.nested
    have hnodup := hnested.nodup_cons Survey.needs_acyclic
    refine ⟨h.asked, ?_, hnodup, fun hd => ?_⟩
    · exact hnested.chain_cons.imp fun _ _ => Survey.consults_iff_needs.mpr
    · exact (hnested.pending_iff v).mpr ⟨hd, (List.nodup_cons.mp hnodup).1⟩
  · intro v hv
    have hplain : s.Evaluates v (s.table.look v) :=
      Survey.evaluates_settle (Survey.mem_declaredIds.mpr hv)
    refine ⟨s.table.look v, Survey.lookup_preview_of_declared hv, fun r' => ?_, ?_⟩
    · constructor
      · intro h
        exact h.unique hplain
      · rintro rfl
        exact hplain
    · intro before
      have hlast : v ∈ before ++ [v] := List.mem_append_right _ (List.mem_singleton_self v)
      exact (Survey.evaluates_settle hlast).unique hplain

/-- `"x"` copies `"y"`, which comes up while `"x"` is under way. -/
theorem Diagram.preview_recursion_below_copy :
    let port (v : String) : Port := { id := "out", variableId := some v }
    let d : Diagram :=
      { nodes := [{ id := "s", role := .entry },
          { id := "a", role := .assign, outputs := [port "x"] },
          { id := "b", role := .read, outputs := [port "y"] }]
        edges := [{ id := "1", source := "s", target := "a" },
          { id := "2", source := "b", target := "a", statedFlow := some .data }] }
    let declarations : List Declaration :=
      [{ id := "x", name := "x" }, { id := "y", name := "y", default := .str "on" }]
    let s := Survey.of d .empty declarations
    s.Moment ["x"] ["x"] ["y"] ["y"] [] ∧ s.Consults "x" "y" ∧
      (∃ declared ∈ declarations, declared.id = "x") ∧
      ∃ r, (d.preview .empty declarations).lookup "x" = some r ∧ s.Evaluates "x" r ∧
        (s.settle ["y", "x"] ["x", "y"] []).look "x" = r := by
  intro port d declarations s
  have hids : Survey.declaredIds declarations = ["x", "y"] := by cbv
  have hneeds : s.needs "x" = ["y"] := by cbv
  have hfree : "x" ∈ Survey.declaredIds s.declarations := by
    show "x" ∈ Survey.declaredIds declarations
    simp [hids]
  have hmoment : s.Moment ["x"] ["x"] ["y"] ["y"] [] := by
    have hstart : s.Moment ["x"] [] ["x"] (Survey.declaredIds s.declarations) [] := .start
    have hbelow := hstart.enter (by simp [Survey.Table.Has]) hfree
    rw [hneeds] at hbelow
    exact hbelow
  have hv : ∃ declared ∈ declarations, declared.id = "x" :=
    ⟨{ id := "x", name := "x" }, by simp [declarations], rfl⟩
  obtain ⟨hrun, hplain⟩ := preview_eq_plain_recursion d .empty declarations
  obtain ⟨-, hchain, -, -⟩ := hrun _ _ _ _ _ _ hmoment
  obtain ⟨r, hr, heval, hbefore⟩ := hplain "x" hv
  refine ⟨hmoment, by simpa using hchain, hv, r, hr, (heval r).mpr rfl, ?_⟩
  rw [← hids]
  exact hbefore ["y"]

end Blueprint
