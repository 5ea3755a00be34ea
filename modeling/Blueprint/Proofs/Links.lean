import Mathlib.Data.List.Chain
import Mathlib.Data.List.Nodup
import Mathlib.Tactic.Tauto
import Blueprint.Search.Links

/-!
# Proofs: links and the walks along them

A walk from `x` to `y` is `ReflTransGen links.Step x y`, a walk of at least one step is
`TransGen links.Step x y`. A table made of pairs has one step for each pair, and `points` holds all
that a walk from the starting points can come to, so that the searches never run out of fresh
points.
-/

namespace Blueprint.Links

open Relation

variable {α : Type} [DecidableEq α] {links : Links α}

/-- What `eraseDups` leaves of a list holds nothing twice. -/
theorem nodup_eraseDups (l : List α) : l.eraseDups.Nodup := by
  induction h : l.length using Nat.strongRecOn generalizing l with
  | ind k ih =>
    cases l with
    | nil => simp
    | cons a l =>
      rw [List.eraseDups_cons, List.nodup_cons]
      have hlt : (l.filter fun b => !b == a).length < k := by
        have := List.length_filter_le (fun b => !b == a) l
        rw [← h, List.length_cons]
        omega
      exact ⟨by simp, ih _ hlt _ rfl⟩

/-- What a table holds for a point that gives each of the points `xs` an entry. -/
theorem lookup_map {β : Type} (f : α → β) (xs : List α) (x : α) :
    (xs.map fun y => (y, f y)).lookup x = if x ∈ xs then some (f x) else none := by
  induction xs with
  | nil => simp
  | cons y xs ih =>
    by_cases h : x = y
    · simp [h]
    · have hb : (x == y) = false := by simpa using h
      simp [List.lookup_cons, hb, ih, h]

/-- The successors in a table that gives each of the points `xs` a row. -/
theorem mem_next_map {f : α → List α} {xs : List α} {x y : α} :
    y ∈ Links.next (xs.map fun z => (z, f z)) x ↔ x ∈ xs ∧ y ∈ f x := by
  unfold Links.next
  rw [lookup_map]
  split <;> simp [*]

/-- In a table made of pairs the successors of a point stand in the order of its pairs. -/
theorem next_ofPairs (pairs : List (α × α)) (x : α) :
    (ofPairs pairs).next x = (pairs.filter (·.1 = x)).map (·.2) := by
  unfold next ofPairs
  rw [lookup_map]
  split
  · rfl
  · next hx =>
    have hnone : pairs.filter (·.1 = x) = [] := by
      rw [List.filter_eq_nil_iff]
      intro pair hpair heq
      exact hx (List.mem_eraseDups.mpr (List.mem_map.mpr ⟨pair, hpair, by simpa using heq⟩))
    rw [hnone]
    rfl

/-- A table made of pairs has a step for each pair and no other step. -/
theorem step_ofPairs {pairs : List (α × α)} {x y : α} :
    (ofPairs pairs).Step x y ↔ (x, y) ∈ pairs := by
  unfold Step ofPairs
  rw [mem_next_map]
  constructor
  · rintro ⟨-, h⟩
    obtain ⟨⟨a, b⟩, hmem, rfl⟩ := List.mem_map.mp h
    obtain ⟨hmem, ha⟩ := List.mem_filter.mp hmem
    have : a = x := by simpa using ha
    exact this ▸ hmem
  · intro h
    refine ⟨List.mem_eraseDups.mpr (List.mem_map.mpr ⟨_, h, rfl⟩), ?_⟩
    exact List.mem_map.mpr ⟨_, List.mem_filter.mpr ⟨h, by simp⟩, rfl⟩

/-- Starting points are points. -/
theorem mem_points_of_mem {starts : List α} {x : α} (h : x ∈ starts) : x ∈ links.points starts := by
  unfold points
  rw [List.mem_eraseDups]
  exact List.mem_append_left _ h

/-- Successors are points. -/
theorem mem_points_of_step {starts : List α} {x y : α} (h : links.Step x y) :
    y ∈ links.points starts := by
  unfold Step next at h
  unfold points
  rw [List.mem_eraseDups]
  refine List.mem_append_right _ (List.mem_flatMap.mpr ?_)
  cases hrow : links.lookup x with
  | none => simp [hrow] at h
  | some row =>
    obtain ⟨l₁, l₂, hl, -⟩ := List.lookup_eq_some_iff.mp hrow
    exact ⟨(x, row), by rw [hl]; simp, by simpa [hrow] using h⟩

/-- All that a walk from a starting point comes to are points. -/
theorem mem_points_of_walk {starts : List α} {x y : α} (hx : x ∈ starts)
    (h : ReflTransGen links.Step x y) : y ∈ links.points starts := by
  rcases h.cases_tail with rfl | ⟨z, -, hz⟩
  · exact mem_points_of_mem hx
  · exact mem_points_of_step hz

theorem walk_of_next {x y : α} (h : ∃ t ∈ links.next x, ReflTransGen links.Step t y) :
    ReflTransGen links.Step x y := by
  obtain ⟨t, ht, hty⟩ := h
  exact .head ht hty

/-- A set that is closed under steps is closed under walks. -/
theorem mem_of_walk {s : List α} (hs : ∀ x ∈ s, ∀ y, links.Step x y → y ∈ s) {x y : α}
    (hx : x ∈ s) (h : ReflTransGen links.Step x y) : y ∈ s := by
  induction h with
  | refl => exact hx
  | tail _ hstep ih => exact hs _ ih _ hstep

/-- Two tables with the same steps have the same walks. -/
theorem step_congr {links links' : Links α}
    (h : ∀ x y, y ∈ links.next x ↔ y ∈ links'.next x) : links.Step = links'.Step := by
  funext x y
  exact propext (h x y)

end Blueprint.Links
