import Blueprint.Search.Components
import Blueprint.Proofs.Links

/-!
# Proofs: what the search for components keeps

Between two steps of the search the closed points are closed under steps, and those on loops are
told apart (`Sound`). `Scanned` says what a scan of some points adds to that: each of them was met,
the points it left on the stack lead further down, and the height it returns bounds every step into
the stack. A point from which nothing leads below its own height heads a component that is ready to
be closed (`Ripe`).
-/

namespace Blueprint.Links

open Relation

variable {α : Type} [DecidableEq α] {links : Links α}

namespace Progress

variable {s s' : Progress α}

/-! ## Heights -/

theorem height_eq {x : α} {above below : List α} (h : s.stack = above ++ x :: below)
    (hx : x ∉ above) : s.height x = below.length := by
  unfold height
  rw [h, List.dropWhile_append_of_pos]
  · simp
  · intro y hy
    have : y ≠ x := fun e => hx (e ▸ hy)
    simpa using this

/-- The first occurrence of a point splits the stack. -/
theorem exists_height {x : α} (h : x ∈ s.stack) :
    ∃ above below, s.stack = above ++ x :: below ∧ x ∉ above ∧ s.height x = below.length := by
  obtain ⟨above, below, hst, hx⟩ := List.eq_append_cons_of_mem h
  exact ⟨above, below, hst, hx, height_eq hst hx⟩

theorem height_lt {x : α} (h : x ∈ s.stack) : s.height x < s.stack.length := by
  obtain ⟨above, below, hst, -, hh⟩ := exists_height h
  rw [hh, hst, List.length_append, List.length_cons]
  omega

/-- Points that come on top of the stack do not change the height of those below. -/
theorem height_of_append {x : α} {above : List α} (h : s'.stack = above ++ s.stack)
    (hnd : s'.stack.Nodup) (hx : x ∈ s.stack) : s'.height x = s.height x := by
  obtain ⟨l, below, hst, hxl, hh⟩ := exists_height hx
  have hst' : s'.stack = (above ++ l) ++ x :: below := by rw [h, hst, List.append_assoc]
  rw [hh]
  refine height_eq hst' fun hmem => ?_
  rcases List.mem_append.mp hmem with hmem | hmem
  · rw [h] at hnd
    exact (List.nodup_append.mp hnd).2.2 x hmem x hx rfl
  · exact hxl hmem

/-- A point stands in the upper part of the stack if it is at least as high as the rest is long. -/
theorem mem_upper_iff {x : α} {above rest : List α} (h : s.stack = above ++ rest)
    (hnd : s.stack.Nodup) (hx : x ∈ s.stack) : x ∈ above ↔ rest.length ≤ s.height x := by
  constructor
  · intro hmem
    obtain ⟨l₁, l₂, hl, hx₁⟩ := List.eq_append_cons_of_mem hmem
    have hst : s.stack = l₁ ++ x :: (l₂ ++ rest) := by rw [h, hl]; simp
    rw [height_eq hst hx₁, List.length_append]
    omega
  · intro hle
    rw [h] at hx
    rcases List.mem_append.mp hx with hmem | hmem
    · exact hmem
    · have hlt := height_lt (s := { s with stack := rest }) hmem
      have hheight : s.height x = Progress.height { s with stack := rest } x :=
        height_of_append h hnd hmem
      rw [← hheight] at hlt
      exact absurd hle (Nat.not_le.mpr hlt)

/-! ## The invariant -/

/-- What holds of the progress throughout the search. -/
structure Sound (links : Links α) (s : Progress α) : Prop where
  stack_nodup : s.stack.Nodup
  looping_nodup : s.looping.Nodup
  apart : ∀ x ∈ s.stack, x ∉ s.closed
  closed_step : ∀ x ∈ s.closed, ∀ y, links.Step x y → y ∈ s.closed
  looping_iff : ∀ x, x ∈ s.looping ↔ x ∈ s.closed ∧ TransGen links.Step x x

theorem sound_start : Sound links ({} : Progress α) := by
  refine ⟨List.nodup_nil, List.nodup_nil, ?_, ?_, ?_⟩ <;> simp

/-- The progress with a point put on top of the stack. -/
abbrev push (s : Progress α) (x : α) : Progress α := { s with stack := x :: s.stack }

/-- A point that was not met before can be put on top of the stack. -/
theorem Sound.push (hs : Sound links s) {x : α} (hstack : x ∉ s.stack) (hclosed : x ∉ s.closed) :
    Sound links (s.push x) := by
  refine ⟨List.nodup_cons.mpr ⟨hstack, hs.stack_nodup⟩, hs.looping_nodup, ?_, hs.closed_step,
    hs.looping_iff⟩
  intro y hy
  rcases List.mem_cons.mp hy with rfl | hy
  · exact hclosed
  · exact hs.apart y hy

/-- A point has been met: it is closed, or it stands on the stack, not below a height. -/
def Seen (s : Progress α) (bound : Nat) (x : α) : Prop :=
  x ∈ s.closed ∨ x ∈ s.stack ∧ bound ≤ s.height x

theorem Seen.mono {low low' : Nat} {above : List α} {x : α} (h : s.Seen low x)
    (hst : s'.stack = above ++ s.stack) (hnd : s'.stack.Nodup)
    (hclosed : ∀ y ∈ s.closed, y ∈ s'.closed) (hlow : low' ≤ low) : s'.Seen low' x := by
  rcases h with h | ⟨hx, hle⟩
  · exact Or.inl (hclosed x h)
  · refine Or.inr ⟨by rw [hst]; exact List.mem_append_right _ hx, ?_⟩
    rw [height_of_append hst hnd hx]
    omega

/-! ## Closing a component -/

/-- The points above `x` on the stack and `x` itself are a component that is ready to be closed:
`x` leads to all of them, each of the others leads further down the stack, and no step leads from
them to a point of the rest of the stack. -/
structure Ripe (links : Links α) (s : Progress α) (x : α) (above rest : List α) : Prop where
  sound : Sound links s
  stack_eq : s.stack = above ++ x :: rest
  reached : ∀ y ∈ above, ReflTransGen links.Step x y
  descends : ∀ y ∈ above, ∃ z ∈ s.stack, s.height z < s.height y ∧ ReflTransGen links.Step y z
  seen : ∀ y ∈ above ++ [x], ∀ z, links.Step y z → s.Seen rest.length z

namespace Ripe

variable {x : α} {above rest : List α}

theorem stack_eq_component (h : Ripe links s x above rest) : s.stack = (above ++ [x]) ++ rest := by
  rw [h.stack_eq]
  simp

theorem mem_stack (h : Ripe links s x above rest) {y : α} (hy : y ∈ above ++ [x]) :
    y ∈ s.stack := by
  rw [h.stack_eq_component]
  exact List.mem_append_left _ hy

/-- A step from the component leads to the component or to a closed point. -/
theorem step_mem (h : Ripe links s x above rest) {y z : α} (hy : y ∈ above ++ [x])
    (hstep : links.Step y z) : z ∈ above ++ [x] ∨ z ∈ s.closed := by
  rcases h.seen y hy z hstep with hz | ⟨hz, hle⟩
  · exact Or.inr hz
  · exact Or.inl ((mem_upper_iff h.stack_eq_component h.sound.stack_nodup hz).mpr hle)

/-- A walk from the component that ends on the stack ends in the component. -/
theorem walk_mem (h : Ripe links s x above rest) {y z : α} (hy : y ∈ above ++ [x])
    (hwalk : ReflTransGen links.Step y z) (hz : z ∉ s.closed) : z ∈ above ++ [x] := by
  have hinv : z ∈ above ++ [x] ∨ z ∈ s.closed := by
    induction hwalk with
    | refl => exact Or.inl hy
    | @tail b c hbc hstep ih =>
      by_cases hb : b ∈ s.closed
      · exact Or.inr (h.sound.closed_step b hb c hstep)
      · rcases ih hb with hb' | hb'
        · exact h.step_mem hb' hstep
        · exact absurd hb' hb
  rcases hinv with hz' | hz'
  · exact hz'
  · exact absurd hz' hz

theorem walk_from_head (h : Ripe links s x above rest) {y : α} (hy : y ∈ above ++ [x]) :
    ReflTransGen links.Step x y := by
  rcases List.mem_append.mp hy with hy | hy
  · exact h.reached y hy
  · rw [List.mem_singleton.mp hy]

/-- Every point of the component leads to its head: going down the stack cannot leave the
component before the head is met. -/
theorem walk_to_head (h : Ripe links s x above rest) {y : α} (hy : y ∈ above ++ [x]) :
    ReflTransGen links.Step y x := by
  induction hk : s.height y using Nat.strongRecOn generalizing y with
  | ind k ih =>
    rcases List.mem_append.mp hy with hy' | hy'
    · obtain ⟨z, hz, hlt, hwalk⟩ := h.descends y hy'
      have hzC : z ∈ above ++ [x] := h.walk_mem hy hwalk (h.sound.apart z hz)
      exact hwalk.trans (ih (s.height z) (by omega) hzC rfl)
    · rw [List.mem_singleton.mp hy']

/-- A component of several points has one that differs from a given point. -/
theorem exists_ne (h : Ripe links s x above rest) (hlen : 1 < (above ++ [x]).length) (y : α) :
    ∃ z ∈ above ++ [x], z ≠ y := by
  have hnd := h.sound.stack_nodup
  rw [h.stack_eq_component] at hnd
  have hdisj := (List.nodup_append.mp (List.nodup_append.mp hnd).1).2.2
  rw [List.length_append, List.length_singleton] at hlen
  obtain ⟨a, ha⟩ := List.exists_mem_of_length_pos (l := above) (by omega)
  by_cases hyx : y = x
  · exact ⟨a, List.mem_append_left _ ha, hyx ▸ hdisj a ha x (List.mem_singleton_self x)⟩
  · exact ⟨x, List.mem_append_right _ (List.mem_singleton_self x), fun e => hyx e.symm⟩

/-- The points of the component lie on loops if there are several of them, or if the head is its
own successor. -/
theorem loop_iff (h : Ripe links s x above rest) {y : α} (hy : y ∈ above ++ [x]) :
    TransGen links.Step y y ↔ 1 < (above ++ [x]).length ∨ x ∈ links.next x := by
  have hback : ∀ z ∈ above ++ [x], ReflTransGen links.Step z y := fun z hz =>
    (h.walk_to_head hz).trans (h.walk_from_head hy)
  constructor
  · intro hloop
    by_cases hlen : 1 < (above ++ [x]).length
    · exact Or.inl hlen
    · have habove : above = [] := by
        apply List.eq_nil_of_length_eq_zero
        rw [List.length_append, List.length_singleton] at hlen
        omega
      subst habove
      have hyx : y = x := by simpa using hy
      subst hyx
      obtain ⟨b, hstep, hwalk⟩ := TransGen.head'_iff.mp hloop
      rcases h.step_mem hy hstep with hb | hb
      · have hby : b = y := by simpa using hb
        exact Or.inr (hby ▸ hstep)
      · -- closed points lead to closed points only, so there is no way back from `b`
        exact absurd (mem_of_walk h.sound.closed_step hb hwalk)
          (h.sound.apart y (h.mem_stack hy))
  · rintro (hlen | hself)
    · obtain ⟨z, hz, hzy⟩ := h.exists_ne hlen y
      have hyz : ReflTransGen links.Step y z := (h.walk_to_head hy).trans (h.walk_from_head hz)
      rcases reflTransGen_iff_eq_or_transGen.mp hyz with e | hyz
      · exact absurd e hzy
      · exact hyz.trans_left (hback z hz)
    · exact (TransGen.tail' (h.walk_to_head hy) hself).trans_left (h.walk_from_head hy)

theorem close_stack (h : Ripe links s x above rest) :
    (s.close links x rest.length).stack = rest := by
  unfold close
  show s.stack.drop (s.stack.length - rest.length) = rest
  rw [h.stack_eq_component, List.length_append, Nat.add_sub_cancel, List.drop_left]

theorem take_component (h : Ripe links s x above rest) :
    s.stack.take (s.stack.length - rest.length) = above ++ [x] := by
  rw [h.stack_eq_component, List.length_append, Nat.add_sub_cancel, List.take_left]

theorem close_closed (h : Ripe links s x above rest) :
    (s.close links x rest.length).closed = (above ++ [x]) ++ s.closed := by
  unfold close
  simp only [h.take_component]

theorem close_looping (h : Ripe links s x above rest) :
    (s.close links x rest.length).looping =
      if 1 < (above ++ [x]).length ∨ x ∈ links.next x then (above ++ [x]) ++ s.looping
      else s.looping := by
  unfold close
  simp only [h.take_component]

/-- Closing a component keeps the invariant. -/
theorem sound_close (h : Ripe links s x above rest) :
    Sound links (s.close links x rest.length) := by
  have hnd := h.sound.stack_nodup
  rw [h.stack_eq_component] at hnd
  obtain ⟨hndC, hndR, hdisj⟩ := List.nodup_append.mp hnd
  have hnot : ∀ y ∈ above ++ [x], y ∉ s.closed := fun y hy =>
    h.sound.apart y (h.mem_stack hy)
  refine ⟨?_, ?_, ?_, ?_, ?_⟩
  · rw [h.close_stack]
    exact hndR
  · rw [h.close_looping]
    split
    · refine List.nodup_append.mpr ⟨hndC, h.sound.looping_nodup, ?_⟩
      intro y hy z hz e
      exact hnot y hy (e ▸ ((h.sound.looping_iff z).mp hz).1)
    · exact h.sound.looping_nodup
  · intro y hy hmem
    rw [h.close_stack] at hy
    rw [h.close_closed] at hmem
    rcases List.mem_append.mp hmem with hmem | hmem
    · exact hdisj y hmem y hy rfl
    · refine h.sound.apart y ?_ hmem
      rw [h.stack_eq_component]
      exact List.mem_append_right _ hy
  · intro y hy z hstep
    rw [h.close_closed] at hy ⊢
    rcases List.mem_append.mp hy with hy | hy
    · exact List.mem_append.mpr (h.step_mem hy hstep)
    · exact List.mem_append_right _ (h.sound.closed_step y hy z hstep)
  · intro y
    rw [h.close_closed, h.close_looping, List.mem_append]
    by_cases hy : y ∈ above ++ [x]
    · have hyl : y ∉ s.looping := fun hm => hnot y hy ((h.sound.looping_iff y).mp hm).1
      rw [h.loop_iff hy]
      split <;> simp_all
    · have hiff := h.sound.looping_iff y
      split
      · rw [List.mem_append]
        tauto
      · tauto

end Ripe

end Progress

end Blueprint.Links
