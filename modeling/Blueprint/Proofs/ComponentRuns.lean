import Mathlib.Logic.Function.Basic
import Blueprint.Proofs.Looping

/-!
# Proofs: the search for components as a loop

The scan goes by recursion, takes fresh points so that it ends, and measures by heights on the stack
how far down it leads. The loop of this module has none of these: it keeps frames, each a point with
the successors still to look at, and gives the points numbers in the order in which it meets them
(`Gathers`). On the stack the numbers grow with the heights (`Tracks`), so the least number that the
loop was led to belongs to the least height that the scan was led to, and both close the same
components.
-/

namespace Blueprint.Links

open Relation

variable {α : Type} [DecidableEq α] {links : Links α}

/-- What the loop keeps besides its frames. -/
structure Numbering (α : Type) where
  /-- The numbers of the points that were met. -/
  index : α → Option Nat := fun _ => none
  /-- The least number that the search below a point was led to. -/
  low : α → Nat := fun _ => 0
  /-- How many points were met. -/
  count : Nat := 0
  /-- The points of open components, the last one found first. -/
  stack : List α := []
  /-- The points of closed components that lie on a loop. -/
  looping : List α := []

namespace Numbering

/-- A point is met: it gets the next number and goes on the stack. -/
def meet (m : Numbering α) (x : α) : Numbering α :=
  { m with
    index := Function.update m.index x (some m.count)
    low := Function.update m.low x m.count
    count := m.count + 1
    stack := x :: m.stack }

/-- The search below `x` is led to a number. -/
def lower (m : Numbering α) (x : α) (number : Nat) : Numbering α :=
  { m with low := Function.update m.low x (min (m.low x) number) }

/-- Takes points off the stack until `x` is off it, too. They lie on loops if there are several of
them, or if `x` is its own successor. -/
def release (m : Numbering α) (links : Links α) (x : α) : Numbering α :=
  let component := m.stack.takeWhile (· ≠ x) ++ [x]
  { m with
    stack := (m.stack.dropWhile (· ≠ x)).tail
    looping := if 1 < component.length ∨ x ∈ links.next x then component ++ m.looping
      else m.looping }

/-- What the search below `x` was led to counts for the point it was come to from, if any. -/
def report (m : Numbering α) (x : α) : Option α → Numbering α
  | none => m
  | some parent => m.lower parent (m.low x)

/-- The search below `x` is over. If it was led to no number below that of `x`, the component of `x`
is complete. -/
def leave (m : Numbering α) (links : Links α) (x : α) (parent : Option α) : Numbering α :=
  let m := m.report x parent
  if m.index x = some (m.low x) then m.release links x else m

theorem leave_index (m : Numbering α) (links : Links α) (x : α) (parent : Option α) :
    (m.leave links x parent).index = m.index := by
  unfold leave
  cases parent <;> (dsimp only; split <;> rfl)

theorem leave_low (m : Numbering α) (links : Links α) (x parent : α) :
    (m.leave links x (some parent)).low =
      Function.update m.low parent (min (m.low parent) (m.low x)) := by
  unfold leave
  dsimp only
  split <;> rfl

end Numbering

/-- A run of the loop, from the starting points that are left, the frames and the numbering to the
points on loops. A frame is a point with those of its successors that were not looked at yet; the
last one comes first. -/
inductive Gathers (links : Links α) :
    (starts : List α) → (frames : List (α × List α)) → Numbering α → (found : List α) → Prop
  /-- No starting point is left. -/
  | finish {m : Numbering α} : Gathers links [] [] m m.looping
  /-- A starting point that was met before is passed over. -/
  | skip {x : α} {starts found : List α} {m : Numbering α} (hx : m.index x ≠ none)
      (rest : Gathers links starts [] m found) : Gathers links (x :: starts) [] m found
  /-- Any other starting point is met. -/
  | start {x : α} {starts found : List α} {m : Numbering α} (hx : m.index x = none)
      (rest : Gathers links starts [(x, links.next x)] (m.meet x) found) :
      Gathers links (x :: starts) [] m found
  /-- A successor that was not met before is met. -/
  | descend {x y : α} {ys starts found : List α} {frames : List (α × List α)} {m : Numbering α}
      (hy : m.index y = none)
      (rest : Gathers links starts ((y, links.next y) :: (x, ys) :: frames) (m.meet y) found) :
      Gathers links starts ((x, y :: ys) :: frames) m found
  /-- A successor on the stack leads to its number. -/
  | back {x y : α} {ys starts found : List α} {frames : List (α × List α)} {m : Numbering α}
      {number : Nat} (hy : m.index y = some number) (hstack : y ∈ m.stack)
      (rest : Gathers links starts ((x, ys) :: frames) (m.lower x number) found) :
      Gathers links starts ((x, y :: ys) :: frames) m found
  /-- A successor in a closed component is passed over. -/
  | pass {x y : α} {ys starts found : List α} {frames : List (α × List α)} {m : Numbering α}
      (hy : m.index y ≠ none) (hstack : y ∉ m.stack)
      (rest : Gathers links starts ((x, ys) :: frames) m found) :
      Gathers links starts ((x, y :: ys) :: frames) m found
  /-- There are no more successors. -/
  | leave {x : α} {starts found : List α} {frames : List (α × List α)} {m : Numbering α}
      (rest : Gathers links starts frames (m.leave links x (frames.head?.map (·.1))) found) :
      Gathers links starts ((x, []) :: frames) m found

/-- At most one turn is possible each time, so the loop finds one list. -/
theorem Gathers.unique {starts found found' : List α} {frames : List (α × List α)}
    {m : Numbering α} (h : links.Gathers starts frames m found)
    (h' : links.Gathers starts frames m found') : found = found' := by
  induction h generalizing found' with
  | finish =>
    cases h'
    rfl
  | skip hx _ ih =>
    cases h' with
    | skip _ h' => exact ih h'
    | start hx' _ => exact absurd hx' hx
  | start hx _ ih =>
    cases h' with
    | skip hx' _ => exact absurd hx hx'
    | start _ h' => exact ih h'
  | descend hy _ ih =>
    cases h' with
    | descend _ h' => exact ih h'
    | back hy' _ _ => cases hy.symm.trans hy'
    | pass hy' _ _ => exact absurd hy hy'
  | back hy hstack _ ih =>
    cases h' with
    | descend hy' _ => cases hy.symm.trans hy'
    | back hy' _ h' =>
      obtain rfl := Option.some.inj (hy.symm.trans hy')
      exact ih h'
    | pass _ hstack' _ => exact absurd hstack hstack'
  | pass hy hstack _ ih =>
    cases h' with
    | descend hy' _ => exact absurd hy' hy
    | back _ hstack' _ => exact absurd hstack' hstack
    | pass _ _ h' => exact ih h'
  | leave _ ih =>
    cases h' with
    | leave h' => exact ih h'

/-! ## Numbers and heights -/

/-- Of two points on the stack one stands above the other, unless they are the same. -/
theorem Progress.pairwise_height {s : Progress α} {r : α → α → Prop} (hr : s.stack.Pairwise r)
    (hnd : s.stack.Nodup) {x y : α} (hx : x ∈ s.stack) (hy : y ∈ s.stack) :
    r x y ∧ s.height y < s.height x ∨ x = y ∨ r y x ∧ s.height x < s.height y := by
  obtain ⟨above, below, hst, -, hheight⟩ := exists_height hx
  have hcomponent : s.stack = (above ++ [x]) ++ below := by rw [hst]; simp
  rw [hst, List.pairwise_append, List.pairwise_cons] at hr
  obtain ⟨-, ⟨hbelow, -⟩, habove⟩ := hr
  have hmem := hy
  rw [hst, List.mem_append, List.mem_cons] at hmem
  rcases hmem with hya | rfl | hyb
  · have hle := (mem_upper_iff hst hnd hy).mp hya
    rw [List.length_cons] at hle
    exact Or.inr (Or.inr ⟨habove y hya x (List.mem_cons_self ..), by omega⟩)
  · exact Or.inr (Or.inl rfl)
  · have hnot : y ∉ above ++ [x] := fun hc => by
      rw [hcomponent] at hnd
      exact (List.nodup_append.mp hnd).2.2 y hc y hyb rfl
    have hlt := mt (mem_upper_iff hcomponent hnd hy).mpr hnot
    exact Or.inl ⟨hbelow y hyb, by omega⟩

/-- A numbering and the progress of a scan that has met the same points. -/
structure Tracks (m : Numbering α) (s : Progress α) : Prop where
  stack_eq : m.stack = s.stack
  looping_eq : m.looping = s.looping
  met : ∀ x, m.index x = none ↔ x ∉ s.stack ∧ x ∉ s.closed
  index_lt : ∀ x i, m.index x = some i → i < m.count
  descending : s.stack.Pairwise fun x y => ∀ i j, m.index x = some i → m.index y = some j → j < i

/-- A number belongs to the point of the stack at a height. -/
def NumberAt (m : Numbering α) (s : Progress α) (height number : Nat) : Prop :=
  ∃ z ∈ s.stack, s.height z = height ∧ m.index z = some number

namespace Tracks

variable {m : Numbering α} {s s' : Progress α} {x y : α}

omit [DecidableEq α] in
theorem start : Tracks ({} : Numbering α) {} :=
  ⟨rfl, rfl, by simp, by simp, .nil⟩

omit [DecidableEq α] in
theorem exists_index (h : Tracks m s) (hx : x ∈ s.stack) : ∃ i, m.index x = some i := by
  cases hi : m.index x with
  | none => exact absurd hx ((h.met x).mp hi).1
  | some i => exact ⟨i, rfl⟩

omit [DecidableEq α] in
theorem index_ne_none (h : Tracks m s) (hx : x ∈ s.closed) : m.index x ≠ none :=
  fun hnone => ((h.met x).mp hnone).2 hx

/-- On the stack the numbers are in the order of the heights. -/
theorem compare (h : Tracks m s) (hnd : s.stack.Nodup) {a b i j : Nat} (hi : NumberAt m s a i)
    (hj : NumberAt m s b j) : j < i ∧ b < a ∨ i = j ∧ a = b ∨ i < j ∧ a < b := by
  obtain ⟨x, hx, rfl, hi⟩ := hi
  obtain ⟨y, hy, rfl, hj⟩ := hj
  rcases Progress.pairwise_height h.descending hnd hx hy with ⟨hr, hlt⟩ | rfl | ⟨hr, hlt⟩
  · exact Or.inl ⟨hr i j hi hj, hlt⟩
  · exact Or.inr (Or.inl ⟨Option.some.inj (hi.symm.trans hj), rfl⟩)
  · exact Or.inr (Or.inr ⟨hr j i hj hi, hlt⟩)

/-- The least of two numbers on the stack belongs to the least of their heights. -/
theorem numberAt_min (h : Tracks m s) (hnd : s.stack.Nodup) {a b i j : Nat}
    (hi : NumberAt m s a i) (hj : NumberAt m s b j) : NumberAt m s (min a b) (min i j) := by
  rcases h.compare hnd hi hj with ⟨hlt, hlt'⟩ | ⟨rfl, rfl⟩ | ⟨hlt, hlt'⟩
  · rw [Nat.min_eq_right hlt.le, Nat.min_eq_right hlt'.le]
    exact hj
  · rw [Nat.min_self, Nat.min_self]
    exact hi
  · rw [Nat.min_eq_left hlt.le, Nat.min_eq_left hlt'.le]
    exact hi

/-- A point that was not met before goes on top of the stack, with the highest number. -/
theorem meet (h : Tracks m s) (hstack : x ∉ s.stack) : Tracks (m.meet x) (s.push x) := by
  have hold : ∀ {z : α}, z ≠ x → (m.meet x).index z = m.index z := fun hz =>
    Function.update_of_ne hz _ _
  have hnew : (m.meet x).index x = some m.count := Function.update_self ..
  have hne : ∀ z ∈ s.stack, z ≠ x := fun z hz e => hstack (e ▸ hz)
  refine ⟨congrArg (x :: ·) h.stack_eq, h.looping_eq, fun z => ?_, fun z i hi => ?_, ?_⟩
  · by_cases hz : z = x
    · subst hz
      simp [hnew]
    · rw [hold hz, h.met z]
      simp [hz]
  · show i < m.count + 1
    by_cases hz : z = x
    · subst hz
      rw [hnew] at hi
      obtain rfl := Option.some.inj hi
      exact Nat.lt_succ_self _
    · rw [hold hz] at hi
      exact (h.index_lt z i hi).trans (Nat.lt_succ_self _)
  · refine List.pairwise_cons.mpr ⟨fun z hz i j hi hj => ?_, ?_⟩
    · rw [hnew] at hi
      obtain rfl := Option.some.inj hi
      rw [hold (hne z hz)] at hj
      exact h.index_lt z j hj
    · refine h.descending.imp_of_mem fun {a b} ha hb hr i j hi hj => ?_
      rw [hold (hne a ha)] at hi
      rw [hold (hne b hb)] at hj
      exact hr i j hi hj

/-- The least numbers led to make no difference. -/
theorem lower (h : Tracks m s) (x : α) (number : Nat) : Tracks (m.lower x number) s :=
  ⟨h.stack_eq, h.looping_eq, h.met, h.index_lt, h.descending⟩

theorem report (h : Tracks m s) (x : α) (parent : Option α) : Tracks (m.report x parent) s := by
  cases parent with
  | none => exact h
  | some parent => exact h.lower parent (m.low x)

/-- Taking points off the stack until the head of a component is off it closes that component. -/
theorem release {above rest : List α} (h : Tracks m s) (hr : s.Ripe links x above rest) :
    Tracks (m.release links x) (s.close links x rest.length) := by
  have hnd := hr.sound.stack_nodup
  rw [hr.stack_eq] at hnd
  have hx : ∀ z ∈ above, z ≠ x := fun z hz =>
    (List.nodup_append.mp hnd).2.2 z hz x (List.mem_cons_self ..)
  have hx' : ∀ z ∈ above, decide (z ≠ x) = true := by simpa using hx
  have hupper : m.stack.takeWhile (· ≠ x) = above := by
    rw [h.stack_eq, hr.stack_eq, List.takeWhile_append_of_pos hx']
    simp
  have hrest : (m.stack.dropWhile (· ≠ x)).tail = rest := by
    rw [h.stack_eq, hr.stack_eq, List.dropWhile_append_of_pos hx']
    simp
  refine ⟨?_, ?_, fun z => ?_, h.index_lt, ?_⟩
  · rw [hr.close_stack]
    exact hrest
  · rw [hr.close_looping]
    simp only [Numbering.release, hupper, h.looping_eq]
  · rw [hr.close_stack, hr.close_closed]
    refine (h.met z).trans ?_
    rw [hr.stack_eq]
    simp only [List.mem_append, List.mem_cons, List.not_mem_nil]
    tauto
  · rw [hr.close_stack]
    have := h.descending
    rw [hr.stack_eq] at this
    exact (List.pairwise_cons.mp (List.pairwise_append.mp this).2.1).2

section Leave

variable {low' : Nat} (hbelow : Scanned links (links.next x) s.stack.length (s.push x) low' s')

include hbelow

/-- The search below `x` was led to no number below that of `x` if it was led to no height below
that of `x`. -/
theorem index_eq_low_iff (h : Tracks m s') (hlow : NumberAt m s' low' (m.low x)) :
    m.index x = some (m.low x) ↔ low' = s.stack.length := by
  obtain ⟨above, hst, -⟩ := hbelow.below_stack
  have hx : x ∈ s'.stack := by rw [hst]; simp
  obtain ⟨i, hi⟩ := h.exists_index hx
  have := h.compare hbelow.sound.stack_nodup ⟨x, hx, hbelow.height_below, hi⟩ hlow
  rw [hi, Option.some.injEq]
  omega

/-- The loop closes a component when the scan does. -/
theorem leave (h : Tracks m s') (hlow : NumberAt m s' low' (m.low x)) (parent : Option α)
    (hparent : ∀ p ∈ parent, p ≠ x) :
    Tracks (m.leave links x parent)
      (if low' = s.stack.length then s'.close links x s.stack.length else s') := by
  have hindex : (m.report x parent).index = m.index := by cases parent <;> rfl
  have hkept : (m.report x parent).low x = m.low x := by
    cases parent with
    | none => rfl
    | some p => exact Function.update_of_ne (hparent p rfl).symm _ _
  have hiff := h.index_eq_low_iff hbelow hlow
  unfold Numbering.leave
  simp only [hindex, hkept, hiff]
  split
  · next heq =>
    obtain ⟨above, hr⟩ := hbelow.ripe heq
    exact (h.report x parent).release hr
  · exact h.report x parent

end Leave

end Tracks

namespace NumberAt

variable {m m' : Numbering α} {s s' : Progress α} {height number : Nat}

theorem height_lt (h : NumberAt m s height number) : height < s.stack.length := by
  obtain ⟨z, hz, rfl, -⟩ := h
  exact Progress.height_lt hz

/-- A point that was just met was led to no number but its own. -/
theorem of_meet (m : Numbering α) (s : Progress α) (x : α) :
    NumberAt (m.meet x) (s.push x) s.stack.length ((m.meet x).low x) :=
  ⟨x, List.mem_cons_self .., Progress.height_eq rfl List.not_mem_nil, by simp [Numbering.meet]⟩

/-- More points on the stack, and more numbers, change nothing below. -/
theorem mono (h : NumberAt m s height number) {above : List α} (hst : s'.stack = above ++ s.stack)
    (hnd : s'.stack.Nodup) (hindex : ∀ z ∈ s.stack, m'.index z = m.index z) :
    NumberAt m' s' height number := by
  obtain ⟨z, hz, hheight, hz'⟩ := h
  refine ⟨z, by rw [hst]; exact List.mem_append_right _ hz, ?_, (hindex z hz).trans hz'⟩
  rw [Progress.height_of_append hst hnd hz, hheight]

/-- What stands below the top part of the stack is left when that part goes. -/
theorem restrict (h : NumberAt m s' height number) {above : List α}
    (hst : s'.stack = above ++ s.stack) (hnd : s'.stack.Nodup) (hlt : height < s.stack.length) :
    NumberAt m s height number := by
  obtain ⟨z, hz, rfl, hz'⟩ := h
  have hz₀ : z ∈ s.stack := by
    have hnot := mt (Progress.mem_upper_iff hst hnd hz).mp (by omega)
    rw [hst] at hz
    exact (List.mem_append.mp hz).resolve_left hnot
  exact ⟨z, hz₀, (Progress.height_of_append hst hnd hz₀).symm, hz'⟩

end NumberAt

/-! ## The scan is a run of the loop -/

/-- What the part of a run in which `x` looks at the points `todo` makes of the numbering: it tracks
the scan of these points, and of the points that were on the stack only `x` is led further down. -/
structure Runs (links : Links α) (x : α) (todo : List α) (s : Progress α) (m : Numbering α)
    (low' : Nat) (s' : Progress α) (m' : Numbering α) : Prop where
  tracks : Tracks m' s'
  low : NumberAt m' s' low' (m'.low x)
  index_eq : ∀ z ∈ s.stack, m'.index z = m.index z
  low_eq : ∀ z ∈ s.stack, z ≠ x → m'.low z = m.low z
  run : ∀ rest starts frames found, links.Gathers starts ((x, rest) :: frames) m' found →
    links.Gathers starts ((x, todo ++ rest) :: frames) m found

namespace Runs

variable {x y : α} {todo : List α} {low low₁ low₂ : Nat} {s s₁ s₂ : Progress α}
  {m m₁ m₂ : Numbering α}

theorem nil (ht : Tracks m s) (hlow : NumberAt m s low (m.low x)) : Runs links x [] s m low s m :=
  ⟨ht, hlow, fun _ _ => rfl, fun _ _ _ => rfl, fun _ _ _ _ h => h⟩

/-- A point that is closed already. -/
theorem of_closed (hs : s.Sound links) (ht : Tracks m s) (hlow : NumberAt m s low (m.low x))
    (hy : y ∈ s.closed) : Runs links x [y] s m low s m := by
  refine ⟨ht, hlow, fun _ _ => rfl, fun _ _ _ => rfl, fun rest starts frames found h => ?_⟩
  refine .pass (ht.index_ne_none hy) (fun hmem => ?_) h
  rw [ht.stack_eq] at hmem
  exact hs.apart y hmem hy

/-- A point that stands on the stack. -/
theorem of_stacked (hs : s.Sound links) (ht : Tracks m s) (hlow : NumberAt m s low (m.low x))
    (hy : y ∈ s.stack) {i : Nat} (hi : m.index y = some i) :
    Runs links x [y] s m (min low (s.height y)) s (m.lower x i) := by
  refine ⟨ht.lower x i, ?_, fun _ _ => rfl, fun z _ hz => Function.update_of_ne hz _ _, ?_⟩
  · show NumberAt m s _ (Function.update m.low x (min (m.low x) i) x)
    rw [Function.update_self]
    exact ht.numberAt_min hs.stack_nodup hlow ⟨y, hy, rfl, hi⟩
  · intro rest starts frames found h
    exact .back hi (ht.stack_eq ▸ hy) h

/-- A point that was not met before: the loop goes on below it and comes back. -/
theorem of_below (ht : Tracks m s) (hlow : NumberAt m s low (m.low x))
    (hx : x ∈ s.stack) (hy : y ∉ s.stack) (hclosed : y ∉ s.closed)
    (hbelow : Scanned links (links.next y) s.stack.length (s.push y) low₁ s₁)
    (h : Runs links y (links.next y) (s.push y) (m.meet y) low₁ s₁ m₁) :
    Runs links x [y] s m (min low low₁)
      (if low₁ = s.stack.length then s₁.close links y s.stack.length else s₁)
      (m₁.leave links y (some x)) := by
  have hne : ∀ z ∈ s.stack, z ≠ y := fun z hz e => hy (e ▸ hz)
  have hindex : ∀ z ∈ s.stack, m₁.index z = m.index z := fun z hz =>
    (h.index_eq z (List.mem_cons_of_mem _ hz)).trans (Function.update_of_ne (hne z hz) _ _)
  have hlows : ∀ z ∈ s.stack, m₁.low z = m.low z := fun z hz =>
    (h.low_eq z (List.mem_cons_of_mem _ hz) (hne z hz)).trans
      (Function.update_of_ne (hne z hz) _ _)
  have hparent : ∀ p ∈ some x, p ≠ y := by simpa using hne x hx
  have hnd := hbelow.sound.stack_nodup
  obtain ⟨above, hst, -⟩ := hbelow.below_stack
  have hst' : s₁.stack = (above ++ [y]) ++ s.stack := by rw [hst]; simp
  have hnumber : NumberAt m₁ s₁ (min low low₁) (min (m₁.low x) (m₁.low y)) := by
    rw [hlows x hx]
    exact h.tracks.numberAt_min hnd (hlow.mono hst' hnd hindex) h.low
  refine ⟨h.tracks.leave hbelow h.low (some x) hparent, ?_, fun z hz => ?_, fun z hz hzx => ?_, ?_⟩
  · unfold NumberAt
    rw [Numbering.leave_index, Numbering.leave_low, Function.update_self]
    split
    · next heq =>
      obtain ⟨above', hr⟩ := hbelow.ripe heq
      have hclose := hr.close_stack
      refine hnumber.restrict (hclose.symm ▸ hst') hnd ?_
      rw [hclose]
      exact lt_of_le_of_lt (min_le_left _ _) hlow.height_lt
    · exact hnumber
  · rw [Numbering.leave_index, hindex z hz]
  · rw [Numbering.leave_low, Function.update_of_ne hzx, hlows z hz]
  · intro rest starts frames found hrest
    have hdown := h.run [] starts ((x, rest) :: frames) found (.leave hrest)
    rw [List.append_nil] at hdown
    exact .descend ((ht.met y).mpr ⟨hy, hclosed⟩) hdown

/-- Two parts of a run one after the other. -/
theorem cons {above : List α} (h₁ : Runs links x [y] s m low₁ s₁ m₁)
    (h₂ : Runs links x todo s₁ m₁ low₂ s₂ m₂) (hst : s₁.stack = above ++ s.stack) :
    Runs links x (y :: todo) s m low₂ s₂ m₂ := by
  have hmem : ∀ z ∈ s.stack, z ∈ s₁.stack := fun z hz => by
    rw [hst]
    exact List.mem_append_right _ hz
  refine ⟨h₂.tracks, h₂.low, fun z hz => ?_, fun z hz hne => ?_, fun _ _ _ _ h => ?_⟩
  · exact (h₂.index_eq z (hmem z hz)).trans (h₁.index_eq z hz)
  · exact (h₂.low_eq z (hmem z hz) hne).trans (h₁.low_eq z hz hne)
  · exact h₁.run _ _ _ _ (h₂.run _ _ _ _ h)

end Runs

/-- Every scan of successors of a point on the stack is a part of a run. -/
theorem exists_runs {todo fresh : List α} {low : Nat} {s : Progress α} (hs : s.Sound links)
    (hfresh : Covers links todo fresh s) :
    ∀ {x : α} {m : Numbering α}, Tracks m s → x ∈ s.stack → NumberAt m s low (m.low x) →
      ∃ m', Runs links x todo s m (links.scan todo fresh low s).1
        (links.scan todo fresh low s).2 m' := by
  fun_induction scan links todo fresh low s with
  | case1 fresh low s =>
    intro x m ht _ hlow
    exact ⟨m, .nil ht hlow⟩
  | case2 y todo fresh low s hy ih =>
    intro x m ht hx hlow
    obtain ⟨m', h⟩ := ih hs hfresh.tail ht hx hlow
    exact ⟨m', (Runs.of_closed hs ht hlow hy).cons h (List.nil_append _).symm⟩
  | case3 y todo fresh low s hclosed hy base below s₁ ihb _ =>
    rename_i iht
    intro x m ht hx hlow
    have hpush : (s.push y).Sound links := hs.push hy.2 hclosed
    have hbelow : Scanned links (links.next y) base (s.push y) below.1 below.2 :=
      scanned_scan hpush (by simp [base]) hfresh.below
    have hfirst : Scanned links [y] low s (min low below.1) s₁ :=
      hbelow.of_below hlow.height_lt.le
    obtain ⟨above, hst, -⟩ := hfirst.stack_eq
    obtain ⟨m₁, h₁⟩ := ihb hpush hfresh.below (ht.meet hy.2) (List.mem_cons_self ..)
      (.of_meet m s y)
    have hrun : Runs links x [y] s m (min low below.1) s₁ (m₁.leave links y (some x)) :=
      .of_below ht hlow hx hy.2 hclosed hbelow h₁
    obtain ⟨m', h⟩ := iht hfirst.sound (hfresh.tail.mono hst) hrun.tracks
      (by rw [hst]; exact List.mem_append_right _ hx) hrun.low
    exact ⟨m', hrun.cons h hst⟩
  | case4 y todo fresh low s hclosed hy ih =>
    intro x m ht hx hlow
    have hstack := hfresh.mem_stack hy
    obtain ⟨i, hi⟩ := ht.exists_index hstack
    have hrun : Runs links x [y] s m (min low (s.height y)) s (m.lower x i) :=
      .of_stacked hs ht hlow hstack hi
    obtain ⟨m', h⟩ := ih hs hfresh.tail hrun.tracks hx hrun.low
    exact ⟨m', hrun.cons h (List.nil_append _).symm⟩

/-- The scan of the starting points is a whole run: between two of them the stack is empty. -/
theorem gathers_scan {starts fresh : List α} {low : Nat} {s : Progress α} {m : Numbering α}
    (hs : s.Sound links) (hlow : low ≤ s.stack.length) (hfresh : Covers links starts fresh s)
    (ht : Tracks m s) (hempty : s.stack = []) :
    links.Gathers starts [] m (links.scan starts fresh low s).2.looping := by
  induction starts generalizing low s m with
  | nil =>
    rw [scan, ← ht.looping_eq]
    exact .finish
  | cons x starts ih =>
    by_cases hclosed : x ∈ s.closed
    · rw [scan, if_pos hclosed]
      exact .skip (ht.index_ne_none hclosed) (ih hs hlow hfresh.tail ht hempty)
    have hstack : x ∉ s.stack := by simp [hempty]
    have hx : x ∈ fresh ∧ x ∉ s.stack := ⟨hfresh x (List.mem_cons_self ..) x .refl hstack, hstack⟩
    have hpush : (s.push x).Sound links := hs.push hstack hclosed
    have hbelow := scanned_scan hpush (Nat.le_succ s.stack.length) hfresh.below
    have hfirst := hbelow.of_below hlow
    obtain ⟨above, hst, -⟩ := hfirst.stack_eq
    obtain ⟨m₁, h⟩ := exists_runs hpush hfresh.below (ht.meet hstack) (List.mem_cons_self ..)
      (.of_meet m s x)
    have hrest := ih hfirst.sound (hfirst.length_le hlow) (hfresh.tail.mono hst)
      (h.tracks.leave hbelow h.low none (by simp)) (hfirst.stack_eq_nil hempty)
    have hdown := h.run [] starts [] _ (.leave hrest)
    rw [List.append_nil] at hdown
    rw [scan, if_neg hclosed, dif_pos hx]
    exact .start ((ht.met x).mpr ⟨hstack, hclosed⟩) hdown

/-- What the search lists is what the loop finds, which always comes to an end. -/
theorem gathers_iff {starts found : List α} :
    links.Gathers starts [] {} found ↔ links.looping starts = found := by
  have hrun : links.Gathers starts [] {} (links.looping starts) :=
    gathers_scan Progress.sound_start le_rfl (Covers.start links starts) Tracks.start rfl
  exact ⟨fun h => hrun.unique h, fun h => h ▸ hrun⟩

/-- **The search for points on loops is correct.** As a loop over frames it comes to an end, with
one list. This holds, each once, exactly the points that a walk from a starting point comes to and
that a walk of one step or more leads back to. What is found does not depend on the order or
repetition of the starting points and of successors. -/
theorem looping_correct (links : Links α) (starts : List α) :
    (∀ found, links.Gathers starts [] {} found ↔ links.looping starts = found) ∧
    (links.looping starts).Nodup ∧
    (∀ x, x ∈ links.looping starts ↔
      (∃ t ∈ starts, ReflTransGen links.Step t x) ∧ TransGen links.Step x x) ∧
    ∀ (links' : Links α) (starts' : List α), (∀ t, t ∈ starts' ↔ t ∈ starts) →
      (∀ x y, y ∈ links'.next x ↔ y ∈ links.next x) →
      ∀ x, x ∈ links'.looping starts' ↔ x ∈ links.looping starts := by
  refine ⟨fun found => gathers_iff, nodup_looping links starts, fun x => mem_looping_iff, ?_⟩
  intro links' starts' hstarts hnext x
  rw [mem_looping_iff, mem_looping_iff, step_congr hnext]
  simp only [hstarts]

/-- A point that is its own successor, listed twice and started from twice. -/
theorem looping_correct_reordered :
    (∀ t, t ∈ [0, 0] ↔ t ∈ [0]) ∧
    (∀ x y, y ∈ Links.next [(0, [0, 1, 0])] x ↔ y ∈ Links.next [(0, [1, 0])] x) ∧
    ∀ x, x ∈ Links.looping [(0, [0, 1, 0])] [0, 0] ↔ x ∈ Links.looping [(0, [1, 0])] [0] := by
  have hstarts : ∀ t, t ∈ [0, 0] ↔ t ∈ [0] := by simp
  have hnext : ∀ x y, y ∈ Links.next [(0, [0, 1, 0])] x ↔ y ∈ Links.next [(0, [1, 0])] x := by
    intro x y
    by_cases hx : x = 0
    · subst hx
      simp only [next, List.lookup_cons_self, Option.getD_some, List.mem_cons, List.not_mem_nil,
        or_false, or_iff_right_iff_imp]
      tauto
    · have hb : (x == 0) = false := by simpa using hx
      simp [next, List.lookup_cons, hb]
  exact ⟨hstarts, hnext, (looping_correct _ _).2.2.2 _ _ hstarts hnext⟩

end Blueprint.Links
