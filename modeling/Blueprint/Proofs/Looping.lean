import Blueprint.Proofs.Components

/-!
# Proofs: the points on loops

`Scanned` is the specification of one scan. It holds of a scan of no points, of the four ways in
which a single point is dealt with (it is closed, it stands on the stack, the search below it leads
further down, or its component is closed), and of two scans one after the other; so it holds of
every scan. At the end of the search the stack is empty, since its lowest point could lead no
further down, and what was met is what was closed.
-/

namespace Blueprint.Links

open Relation

variable {α : Type} [DecidableEq α] {links : Links α}

/-- What is known about a point `y` that a scan of `todo` left on the stack. -/
structure Left (links : Links α) (todo : List α) (low : Nat) (s : Progress α) (y : α) : Prop where
  reached : ∃ t ∈ todo, ReflTransGen links.Step t y
  descends : ∃ z ∈ s.stack, s.height z < s.height y ∧ ReflTransGen links.Step y z
  seen : ∀ z, links.Step y z → s.Seen low z

/-- What a scan of `todo` makes of the height `low` and the progress `s`. -/
structure Scanned (links : Links α) (todo : List α) (low : Nat) (s : Progress α) (low' : Nat)
    (s' : Progress α) : Prop where
  sound : s'.Sound links
  low_le : low' ≤ low
  low_eq : low' = low ∨
    ∃ t ∈ todo, ∃ z ∈ s'.stack, s'.height z = low' ∧ ReflTransGen links.Step t z
  closed_mono : ∀ x ∈ s.closed, x ∈ s'.closed
  closed_from : ∀ x ∈ s'.closed, x ∈ s.closed ∨ ∃ t ∈ todo, ReflTransGen links.Step t x
  todo_seen : ∀ t ∈ todo, s'.Seen low' t
  stack_eq : ∃ above, s'.stack = above ++ s.stack ∧ ∀ y ∈ above, Left links todo low' s' y

namespace Scanned

variable {s s' s₁ s₂ : Progress α} {x : α} {todo : List α} {low low' low₁ low₂ : Nat}

/-! ## The cases of a scan -/

theorem nil (hs : s.Sound links) (low : Nat) : Scanned links [] low s low s :=
  ⟨hs, le_rfl, Or.inl rfl, fun _ h => h, fun _ h => Or.inl h, by simp, [], by simp⟩

/-- A point that is closed already. -/
theorem of_closed (hs : s.Sound links) (hx : x ∈ s.closed) (low : Nat) :
    Scanned links [x] low s low s := by
  refine ⟨hs, le_rfl, Or.inl rfl, fun _ h => h, fun _ h => Or.inl h, ?_, [], by simp⟩
  intro t ht
  exact Or.inl (List.mem_singleton.mp ht ▸ hx)

/-- A point that stands on the stack. -/
theorem of_stacked (hs : s.Sound links) (hx : x ∈ s.stack) (low : Nat) :
    Scanned links [x] low s (min low (s.height x)) s := by
  refine ⟨hs, min_le_left _ _, ?_, fun _ h => h, fun _ h => Or.inl h, ?_, [], by simp⟩
  · rcases Nat.le_total low (s.height x) with hle | hle
    · exact Or.inl (Nat.min_eq_left hle)
    · exact Or.inr ⟨x, List.mem_singleton_self x, x, hx, (Nat.min_eq_right hle).symm, .refl⟩
  · intro t ht
    rw [List.mem_singleton.mp ht]
    exact Or.inr ⟨hx, min_le_right _ _⟩

section Below

variable (h : Scanned links (links.next x) s.stack.length (s.push x) low' s')

include h

/-- The points that a scan below `x` leaves on the stack above `x`. -/
theorem below_stack : ∃ above, s'.stack = above ++ x :: s.stack ∧
    ∀ y ∈ above, Left links (links.next x) low' s' y := h.stack_eq

theorem height_below : s'.height x = s.stack.length := by
  obtain ⟨above, hst, -⟩ := h.below_stack
  refine Progress.height_eq hst fun hmem => ?_
  have hnd := h.sound.stack_nodup
  rw [hst] at hnd
  exact (List.nodup_append.mp hnd).2.2 x hmem x (List.mem_cons_self ..) rfl

/-- The search below `x` led further down the stack: `x` stays there. -/
theorem of_kept (hne : low' ≠ s.stack.length) :
    Scanned links [x] low s (min low low') s' := by
  obtain ⟨above, hst, habove⟩ := h.below_stack
  have hlt : low' < s.stack.length := lt_of_le_of_ne h.low_le hne
  obtain ⟨t, ht, z, hz, hzlow, hwalk⟩ := h.low_eq.resolve_left hne
  have hxz : ReflTransGen links.Step x z := .head ht hwalk
  have hxx : ∃ t ∈ [x], ReflTransGen links.Step t x := ⟨x, List.mem_singleton_self x, .refl⟩
  have hx : x ∈ s'.stack := by rw [hst]; simp
  have hseen : ∀ {w : α}, s'.Seen low' w → s'.Seen (min low low') w := fun hw =>
    hw.mono (List.nil_append _).symm h.sound.stack_nodup (fun _ h => h) (min_le_right _ _)
  refine ⟨h.sound, min_le_left _ _, ?_, h.closed_mono, ?_, ?_, above ++ [x], by simp [hst], ?_⟩
  · rcases Nat.le_total low low' with hle | hle
    · exact Or.inl (Nat.min_eq_left hle)
    · refine Or.inr ⟨x, List.mem_singleton_self x, z, hz, ?_, hxz⟩
      rw [hzlow, Nat.min_eq_right hle]
  · intro y hy
    rcases h.closed_from y hy with hy | hy
    · exact Or.inl hy
    · exact Or.inr ⟨x, List.mem_singleton_self x, walk_of_next hy⟩
  · intro t ht
    rw [List.mem_singleton.mp ht]
    refine hseen (Or.inr ⟨hx, ?_⟩)
    rw [h.height_below]
    omega
  · intro y hy
    rcases List.mem_append.mp hy with hy | hy
    · have hl := habove y hy
      exact ⟨⟨x, List.mem_singleton_self x, walk_of_next hl.reached⟩, hl.descends,
        fun w hw => hseen (hl.seen w hw)⟩
    · rw [List.mem_singleton.mp hy]
      refine ⟨hxx, ⟨z, hz, ?_, hxz⟩, fun w hw => hseen (h.todo_seen w hw)⟩
      rw [h.height_below]
      omega

/-- The search below `x` led no further down than to `x`: its component can be closed. -/
theorem ripe (heq : low' = s.stack.length) : ∃ above, s'.Ripe links x above s.stack := by
  obtain ⟨above, hst, habove⟩ := h.below_stack
  refine ⟨above, h.sound, hst, ?_, ?_, ?_⟩
  · intro y hy
    exact walk_of_next (habove y hy).reached
  · intro y hy
    exact (habove y hy).descends
  · intro y hy w hw
    rw [← heq]
    rcases List.mem_append.mp hy with hy | hy
    · exact (habove y hy).seen w hw
    · rw [List.mem_singleton.mp hy] at hw
      exact h.todo_seen w hw

/-- The component of `x` is closed: the stack is what it was before. -/
theorem of_ripe (hlow : low ≤ s.stack.length) (heq : low' = s.stack.length) :
    Scanned links [x] low s (min low low') (s'.close links x s.stack.length) := by
  obtain ⟨above, hr⟩ := h.ripe heq
  have hmin : min low low' = low := by
    rw [heq]
    exact Nat.min_eq_left hlow
  rw [hmin]
  refine ⟨hr.sound_close, le_rfl, Or.inl rfl, ?_, ?_, ?_, [], hr.close_stack, by simp⟩
  · intro y hy
    rw [hr.close_closed]
    exact List.mem_append_right _ (h.closed_mono y hy)
  · intro y hy
    rw [hr.close_closed] at hy
    rcases List.mem_append.mp hy with hy | hy
    · exact Or.inr ⟨x, List.mem_singleton_self x, hr.walk_from_head hy⟩
    · rcases h.closed_from y hy with hy | hy
      · exact Or.inl hy
      · exact Or.inr ⟨x, List.mem_singleton_self x, walk_of_next hy⟩
  · intro t ht
    refine Or.inl ?_
    rw [List.mem_singleton.mp ht, hr.close_closed]
    simp

/-- A point that was not met before: the search goes on below it, and then it is dealt with in one
of the two ways. -/
theorem of_below (hlow : low ≤ s.stack.length) :
    Scanned links [x] low s (min low low')
      (if low' = s.stack.length then s'.close links x s.stack.length else s') := by
  split
  · next heq => exact h.of_ripe hlow heq
  · next hne => exact h.of_kept hne

end Below

/-- Two scans one after the other. -/
theorem cons (h₁ : Scanned links [x] low s low₁ s₁) (h₂ : Scanned links todo low₁ s₁ low₂ s₂) :
    Scanned links (x :: todo) low s low₂ s₂ := by
  obtain ⟨above₁, hst₁, habove₁⟩ := h₁.stack_eq
  obtain ⟨above₂, hst₂, habove₂⟩ := h₂.stack_eq
  have hnd := h₂.sound.stack_nodup
  have hfirst : ∀ {y : α}, (∃ t ∈ [x], ReflTransGen links.Step t y) →
      ∃ t ∈ x :: todo, ReflTransGen links.Step t y := by
    rintro y ⟨t, ht, hwalk⟩
    exact ⟨t, by rw [List.mem_singleton.mp ht]; exact List.mem_cons_self .., hwalk⟩
  have hrest : ∀ {y : α}, (∃ t ∈ todo, ReflTransGen links.Step t y) →
      ∃ t ∈ x :: todo, ReflTransGen links.Step t y := by
    rintro y ⟨t, ht, hwalk⟩
    exact ⟨t, List.mem_cons_of_mem _ ht, hwalk⟩
  have hstack : ∀ {z : α}, z ∈ s₁.stack → z ∈ s₂.stack := fun hz => by
    rw [hst₂]
    exact List.mem_append_right _ hz
  have hheight : ∀ {z : α}, z ∈ s₁.stack → s₂.height z = s₁.height z :=
    Progress.height_of_append hst₂ hnd
  have hseen : ∀ {z : α}, s₁.Seen low₁ z → s₂.Seen low₂ z := fun hz =>
    hz.mono hst₂ hnd h₂.closed_mono h₂.low_le
  refine ⟨h₂.sound, h₂.low_le.trans h₁.low_le, ?_, ?_, ?_, ?_, above₂ ++ above₁, ?_, ?_⟩
  · rcases h₂.low_eq with e₂ | ⟨t, ht, z, hz, hzl, hwalk⟩
    · rcases h₁.low_eq with e₁ | ⟨t, ht, z, hz, hzl, hwalk⟩
      · exact Or.inl (e₂.trans e₁)
      · obtain ⟨t', ht', hwalk'⟩ := hfirst ⟨t, ht, hwalk⟩
        exact Or.inr ⟨t', ht', z, hstack hz, by rw [hheight hz, hzl, e₂], hwalk'⟩
    · exact Or.inr ⟨t, List.mem_cons_of_mem _ ht, z, hz, hzl, hwalk⟩
  · intro y hy
    exact h₂.closed_mono y (h₁.closed_mono y hy)
  · intro y hy
    rcases h₂.closed_from y hy with hy | hy
    · rcases h₁.closed_from y hy with hy | hy
      · exact Or.inl hy
      · exact Or.inr (hfirst hy)
    · exact Or.inr (hrest hy)
  · intro t ht
    rcases List.mem_cons.mp ht with rfl | ht
    · exact hseen (h₁.todo_seen t (List.mem_singleton_self t))
    · exact h₂.todo_seen t ht
  · rw [hst₂, hst₁, List.append_assoc]
  · intro y hy
    rcases List.mem_append.mp hy with hy | hy
    · have hl := habove₂ y hy
      exact ⟨hrest hl.reached, hl.descends, hl.seen⟩
    · have hl := habove₁ y hy
      have hy₁ : y ∈ s₁.stack := by
        rw [hst₁]
        exact List.mem_append_left _ hy
      obtain ⟨z, hz, hlt, hwalk⟩ := hl.descends
      refine ⟨hfirst hl.reached, ⟨z, hstack hz, ?_, hwalk⟩, fun w hw => hseen (hl.seen w hw)⟩
      rw [hheight hz, hheight hy₁]
      exact hlt

theorem length_le (h : Scanned links todo low s low' s') (hlow : low ≤ s.stack.length) :
    low' ≤ s'.stack.length := by
  obtain ⟨above, hst, -⟩ := h.stack_eq
  have := h.low_le
  rw [hst, List.length_append]
  omega

end Scanned

/-! ## The whole search -/

/-- All that can be come to from the points to do and that is not on the stack is fresh. -/
def Covers (links : Links α) (todo fresh : List α) (s : Progress α) : Prop :=
  ∀ t ∈ todo, ∀ y, ReflTransGen links.Step t y → y ∉ s.stack → y ∈ fresh

namespace Covers

variable {x : α} {todo fresh : List α} {s s' : Progress α}

theorem start (links : Links α) (starts : List α) : Covers links starts (links.points starts) {} :=
  fun _ ht _ hwalk _ => mem_points_of_walk ht hwalk

theorem tail (h : Covers links (x :: todo) fresh s) : Covers links todo fresh s :=
  fun t ht => h t (List.mem_cons_of_mem _ ht)

/-- A higher stack leaves less to be fresh. -/
theorem mono (h : Covers links todo fresh s) {above : List α} (hst : s'.stack = above ++ s.stack) :
    Covers links todo fresh s' := by
  intro t ht y hwalk hy
  refine h t ht y hwalk fun hmem => hy ?_
  rw [hst]
  exact List.mem_append_right _ hmem

/-- Below `x`, that point is no longer fresh but stands on the stack. -/
theorem below (h : Covers links (x :: todo) fresh s) :
    Covers links (links.next x) (fresh.erase x) (s.push x) := by
  intro t ht y hwalk hy
  rw [List.mem_cons, not_or] at hy
  exact (List.mem_erase_of_ne hy.1).mpr (h x (List.mem_cons_self ..) y (.head ht hwalk) hy.2)

/-- A point that is not fresh, or is on the stack, is on the stack. -/
theorem mem_stack (h : Covers links (x :: todo) fresh s) (hx : ¬ (x ∈ fresh ∧ x ∉ s.stack)) :
    x ∈ s.stack := by
  by_contra hcon
  exact hx ⟨h x (List.mem_cons_self ..) x .refl hcon, hcon⟩

end Covers

/-- Every scan meets its specification, if the fresh points cover all that it can come to. -/
theorem scanned_scan {todo fresh : List α} {low : Nat} {s : Progress α} (hs : s.Sound links)
    (hlow : low ≤ s.stack.length) (hfresh : Covers links todo fresh s) :
    Scanned links todo low s (links.scan todo fresh low s).1 (links.scan todo fresh low s).2 := by
  fun_induction scan links todo fresh low s with
  | case1 fresh low s => exact .nil hs low
  | case2 x todo fresh low s hx ih =>
    exact (Scanned.of_closed hs hx low).cons (ih hs hlow hfresh.tail)
  | case3 x todo fresh low s hclosed hx base below s₁ ihb _ iht =>
    have hbelow : Scanned links (links.next x) base (s.push x) below.1 below.2 :=
      ihb (hs.push hx.2 hclosed) (by simp [base]) hfresh.below
    have hfirst : Scanned links [x] low s (min low below.1) s₁ := hbelow.of_below hlow
    obtain ⟨above, hst, -⟩ := hfirst.stack_eq
    exact hfirst.cons (iht hfirst.sound (hfirst.length_le hlow) (hfresh.tail.mono hst))
  | case4 x todo fresh low s hclosed hx ih =>
    exact (Scanned.of_stacked hs (hfresh.mem_stack hx) low).cons
      (ih hs ((min_le_left _ _).trans hlow) hfresh.tail)

/-- A scan that starts with an empty stack ends with an empty stack. -/
theorem Scanned.stack_eq_nil {s s' : Progress α} {todo : List α} {low low' : Nat}
    (h : Scanned links todo low s low' s') (hs : s.stack = []) : s'.stack = [] := by
  obtain ⟨above, hst, habove⟩ := h.stack_eq
  rw [hs, List.append_nil] at hst
  -- each point left on the stack leads to a lower one there, so none can be the lowest
  have hnone : ∀ k, ∀ y ∈ s'.stack, s'.height y ≠ k := by
    intro k
    induction k using Nat.strongRecOn with
    | ind k ih =>
      intro y hy hk
      obtain ⟨z, hz, hlt, -⟩ := (habove y (hst ▸ hy)).descends
      exact ih (s'.height z) (by omega) z hz rfl
  by_contra hne
  obtain ⟨y, hy⟩ := List.exists_mem_of_ne_nil _ hne
  exact hnone _ y hy rfl

/-- The whole search meets the specification, and nothing is left on the stack. -/
theorem scanned_starts (links : Links α) (starts : List α) :
    ∃ low s, Scanned links starts 0 {} low s ∧ s.stack = [] ∧ links.looping starts = s.looping := by
  have h := scanned_scan Progress.sound_start (Nat.zero_le 0) (Covers.start links starts)
  exact ⟨_, _, h, h.stack_eq_nil rfl, rfl⟩

/-- The search finds exactly the points on loops that walks from the starting points come to. -/
theorem mem_looping_iff {starts : List α} {x : α} :
    x ∈ links.looping starts ↔
      (∃ t ∈ starts, ReflTransGen links.Step t x) ∧ TransGen links.Step x x := by
  obtain ⟨low, s, h, hst, hloop⟩ := scanned_starts links starts
  rw [hloop, h.sound.looping_iff]
  refine and_congr_left fun _ => ⟨fun hx => ?_, ?_⟩
  · exact (h.closed_from x hx).resolve_left (by simp)
  · rintro ⟨t, ht, hwalk⟩
    have htc : t ∈ s.closed := by
      rcases h.todo_seen t ht with htc | ⟨hts, -⟩
      · exact htc
      · rw [hst] at hts
        simp at hts
    exact mem_of_walk h.sound.closed_step htc hwalk

theorem nodup_looping (links : Links α) (starts : List α) : (links.looping starts).Nodup := by
  obtain ⟨low, s, h, -, hloop⟩ := scanned_starts links starts
  rw [hloop]
  exact h.sound.looping_nodup

end Blueprint.Links
