import Mathlib.Order.Lattice.Nat
import Blueprint.Search.BreadthFirst
import Blueprint.Proofs.Links

/-!
# Proofs: breadth-first search

The search visits exactly the points that a walk from a starting point comes to, each once. What is
visited is closed under steps to fresh points, and at the start every point is fresh.

The fresh points are there for the search to end; without them it is a loop over a queue (`Visits`).
A run of the loop lists the points in the order in which they first stand in the queue, and that
order is by distance from the starting points.
-/

namespace Blueprint.Links

open Relation

variable {α : Type} [DecidableEq α] {links : Links α}

/-- Only fresh points are visited. -/
theorem mem_fresh_of_mem_visit {queue fresh : List α} {y : α} (h : y ∈ links.visit queue fresh) :
    y ∈ fresh := by
  fun_induction visit links queue fresh with
  | case1 => simp at h
  | case2 x queue fresh hx ih =>
    rcases List.mem_cons.mp h with rfl | h
    · exact hx
    · exact List.mem_of_mem_erase (ih h)
  | case3 x queue fresh hx ih => exact ih h

/-- A walk from the queue leads to each visited point. -/
theorem walk_of_mem_visit {queue fresh : List α} {y : α} (h : y ∈ links.visit queue fresh) :
    ∃ x ∈ queue, ReflTransGen links.Step x y := by
  fun_induction visit links queue fresh with
  | case1 => simp at h
  | case2 x queue fresh hx ih =>
    rcases List.mem_cons.mp h with rfl | h
    · exact ⟨y, List.mem_cons_self .., .refl⟩
    · obtain ⟨z, hz, hzy⟩ := ih h
      rcases List.mem_append.mp hz with hz | hz
      · exact ⟨z, List.mem_cons_of_mem _ hz, hzy⟩
      · exact ⟨x, List.mem_cons_self .., .head hz hzy⟩
  | case3 x queue fresh hx ih =>
    obtain ⟨z, hz, hzy⟩ := ih h
    exact ⟨z, List.mem_cons_of_mem _ hz, hzy⟩

/-- The fresh points of the queue are visited. -/
theorem mem_visit_of_mem_queue {queue fresh : List α} {y : α} (hq : y ∈ queue) (hf : y ∈ fresh) :
    y ∈ links.visit queue fresh := by
  fun_induction visit links queue fresh with
  | case1 => simp at hq
  | case2 x queue fresh hx ih =>
    by_cases hyx : y = x
    · exact hyx ▸ List.mem_cons_self ..
    · rcases List.mem_cons.mp hq with rfl | hq
      · exact absurd rfl hyx
      · exact List.mem_cons_of_mem _
          (ih (List.mem_append_left _ hq) ((List.mem_erase_of_ne hyx).mpr hf))
  | case3 x queue fresh hx ih =>
    rcases List.mem_cons.mp hq with rfl | hq
    · exact absurd hf hx
    · exact ih hq hf

/-- The fresh successors of a visited point are visited. -/
theorem mem_visit_of_step {queue fresh : List α} {y z : α} (hy : y ∈ links.visit queue fresh)
    (hstep : links.Step y z) (hf : z ∈ fresh) : z ∈ links.visit queue fresh := by
  fun_induction visit links queue fresh with
  | case1 => simp at hy
  | case2 x queue fresh hx ih =>
    by_cases hzx : z = x
    · exact hzx ▸ List.mem_cons_self ..
    · have hf' : z ∈ fresh.erase x := (List.mem_erase_of_ne hzx).mpr hf
      refine List.mem_cons_of_mem _ ?_
      rcases List.mem_cons.mp hy with rfl | hy
      · exact mem_visit_of_mem_queue (List.mem_append_right _ hstep) hf'
      · exact ih hy hf'
  | case3 x queue fresh hx ih => exact ih hy hf

/-- Each point is visited once. -/
theorem nodup_visit {queue fresh : List α} (h : fresh.Nodup) : (links.visit queue fresh).Nodup := by
  fun_induction visit links queue fresh with
  | case1 => simp
  | case2 x queue fresh hx ih =>
    refine List.nodup_cons.mpr ⟨fun hmem => ?_, ih (h.erase x)⟩
    exact h.not_mem_erase (mem_fresh_of_mem_visit hmem)
  | case3 x queue fresh hx ih => exact ih h

/-- The search finds exactly what walks from the starting points come to. -/
theorem mem_reach_iff {starts : List α} {y : α} :
    y ∈ links.reach starts ↔ ∃ x ∈ starts, ReflTransGen links.Step x y := by
  constructor
  · exact walk_of_mem_visit
  · rintro ⟨x, hx, h⟩
    induction h with
    | refl => exact mem_visit_of_mem_queue hx (mem_points_of_mem hx)
    | tail _ hstep ih => exact mem_visit_of_step ih hstep (mem_points_of_step hstep)

/-- The search finds each point once. -/
theorem nodup_reach (starts : List α) : (links.reach starts).Nodup :=
  nodup_visit (nodup_eraseDups _)

/-! ## The loop over the queue -/

/-- A run of the loop, from a queue and the points visited so far to the points visited from then
on. Each turn takes a point off the front of the queue, and the run ends with the queue. -/
inductive Visits (links : Links α) : (queue visited order : List α) → Prop
  /-- The queue is empty. -/
  | done {visited : List α} : Visits links [] visited []
  /-- A point that was visited before is dropped. -/
  | drop {x : α} {queue visited order : List α} (hx : x ∈ visited)
      (rest : Visits links queue visited order) : Visits links (x :: queue) visited order
  /-- Any other point is visited, and its successors join the queue at the end. -/
  | visit {x : α} {queue visited order : List α} (hx : x ∉ visited)
      (rest : Visits links (queue ++ links.next x) (x :: visited) order) :
      Visits links (x :: queue) visited (x :: order)

theorem Visits.unique {queue visited order order' : List α} (h : links.Visits queue visited order)
    (h' : links.Visits queue visited order') : order = order' := by
  induction h generalizing order' with
  | done =>
    cases h'
    rfl
  | drop hx _ ih =>
    cases h' with
    | drop _ h' => exact ih h'
    | visit hx' _ => exact absurd hx hx'
  | visit hx _ ih =>
    cases h' with
    | drop hx' _ => exact absurd hx' hx
    | visit _ h' => rw [ih h']

/-- As long as the fresh points are those not visited yet, the search is a run of the loop. -/
theorem visits_visit {queue fresh visited : List α} (hnd : fresh.Nodup)
    (hfresh : ∀ t ∈ queue, ∀ y, ReflTransGen links.Step t y → (y ∈ fresh ↔ y ∉ visited)) :
    links.Visits queue visited (links.visit queue fresh) := by
  fun_induction visit links queue fresh generalizing visited with
  | case1 => exact .done
  | case2 x queue fresh hx ih =>
    have hself := hfresh x (List.mem_cons_self ..) x .refl
    refine .visit (hself.mp hx) (ih (hnd.erase x) ?_)
    intro t ht y hwalk
    have hy : y ∈ fresh ↔ y ∉ visited := by
      rcases List.mem_append.mp ht with ht | ht
      · exact hfresh t (List.mem_cons_of_mem _ ht) y hwalk
      · exact hfresh x (List.mem_cons_self ..) y (.head ht hwalk)
    rw [hnd.mem_erase_iff, hy, List.mem_cons, not_or]
  | case3 x queue fresh hx ih =>
    have hself := hfresh x (List.mem_cons_self ..) x .refl
    have hseen : x ∈ visited := by
      by_contra hcon
      exact hx (hself.mpr hcon)
    exact .drop hseen (ih hnd fun t ht => hfresh t (List.mem_cons_of_mem _ ht))

theorem visits_reach (links : Links α) (starts : List α) :
    links.Visits starts [] (links.reach starts) := by
  refine visits_visit (nodup_eraseDups _) fun t ht y hwalk => ?_
  simp [mem_points_of_walk ht hwalk]

/-- A run visits the points in the order in which they first stand in the queue. -/
theorem Visits.order_eq {queue visited order : List α} (h : links.Visits queue visited order) :
    order = ((queue ++ order.flatMap links.next).filter (· ∉ visited)).eraseDups := by
  induction h with
  | done => simp
  | drop hx _ ih =>
    rw [List.cons_append, List.filter_cons_of_neg (by simpa using hx)]
    exact ih
  | @visit x queue visited order hx _ ih =>
    have hsplit : ∀ l : List α, (l.filter (· ∉ visited)).filter (fun y => !y == x) =
        l.filter (· ∉ x :: visited) := by
      intro l
      rw [List.filter_filter]
      refine List.filter_congr fun y _ => ?_
      simp only [List.mem_cons, not_or, Bool.decide_and, decide_not, beq_eq_decide]
    rw [List.flatMap_cons, List.cons_append, List.filter_cons_of_pos (by simpa using hx),
      List.eraseDups_cons, hsplit, ← List.append_assoc, ← ih]

theorem reach_eq_eraseDups (links : Links α) (starts : List α) :
    links.reach starts = (starts ++ (links.reach starts).flatMap links.next).eraseDups := by
  have h := (visits_reach links starts).order_eq
  simpa using h

/-! ## Distance -/

/-- A walk of so many steps leads from a starting point to a point. -/
inductive Away (links : Links α) (starts : List α) : Nat → α → Prop
  /-- Starting points are no step away. -/
  | start {x : α} (hx : x ∈ starts) : Away links starts 0 x
  /-- The walk goes on by a step. -/
  | step {n : Nat} {x y : α} (h : Away links starts n x) (hstep : links.Step x y) :
      Away links starts (n + 1) y

/-- The length of a shortest walk from a starting point to a point. -/
noncomputable def distance (links : Links α) (starts : List α) (x : α) : Nat :=
  sInf { n | links.Away starts n x }

theorem exists_away_iff {starts : List α} {y : α} :
    (∃ n, links.Away starts n y) ↔ ∃ x ∈ starts, ReflTransGen links.Step x y := by
  constructor
  · rintro ⟨n, h⟩
    induction h with
    | @start x hx => exact ⟨x, hx, .refl⟩
    | step _ hstep ih =>
      obtain ⟨x, hx, hwalk⟩ := ih
      exact ⟨x, hx, hwalk.tail hstep⟩
  · rintro ⟨x, hx, hwalk⟩
    induction hwalk with
    | refl => exact ⟨0, .start hx⟩
    | tail _ hstep ih =>
      obtain ⟨n, h⟩ := ih
      exact ⟨n + 1, h.step hstep⟩

/-- What the search finds has a shortest walk to it. -/
theorem isLeast_distance {starts : List α} {x : α} (hx : x ∈ links.reach starts) :
    IsLeast { n | links.Away starts n x } (links.distance starts x) :=
  ⟨Nat.sInf_mem (exists_away_iff.mpr (mem_reach_iff.mp hx)), fun _ hn => Nat.sInf_le hn⟩

theorem isPrefix_eraseDups {l l' : List α} (h : l <+: l') : l.eraseDups <+: l'.eraseDups := by
  obtain ⟨t, rfl⟩ := h
  rw [List.eraseDups_append]
  exact List.prefix_append ..

/-- What stands before a point when repetitions are taken away stood before it in the list. -/
theorem mem_of_before_eraseDups {x y : α} {l₁ l₂ r₁ r₂ : List α}
    (h : (l₁ ++ y :: l₂).eraseDups = r₁ ++ y :: r₂) (hx : x ∈ r₁) : x ∈ l₁ := by
  have hl : (l₁ ++ [y]).eraseDups <+: r₁ ++ y :: r₂ := by
    rw [← h]
    exact isPrefix_eraseDups ⟨l₂, by simp⟩
  have hr : r₁ ++ [y] <+: r₁ ++ y :: r₂ := ⟨r₂, by simp⟩
  have hnd : (r₁ ++ y :: r₂).Nodup := h ▸ nodup_eraseDups _
  have hy : y ∉ r₁ := fun hmem => List.disjoint_of_nodup_append hnd hmem (List.mem_cons_self ..)
  -- `y` is in both of these beginnings, and it closes the second one
  have hsub : r₁ ++ [y] <+: (l₁ ++ [y]).eraseDups := by
    rcases List.prefix_or_prefix_of_prefix hl hr with hle | hle
    · rcases List.prefix_concat_iff.mp hle with heq | hle
      · rw [heq]
      · exact absurd (hle.subset (List.mem_eraseDups.mpr (by simp))) hy
    · exact hle
  have hmem : x ∈ (l₁ ++ [y]).eraseDups := hsub.subset (List.mem_append_left _ hx)
  rcases List.mem_append.mp (List.mem_eraseDups.mp hmem) with hmem | hmem
  · exact hmem
  · exact absurd (List.mem_singleton.mp hmem ▸ hx) hy

/-- What is visited before a point stood before it in the queue, wherever in the queue that is. -/
theorem mem_of_visited_before {starts before after l₁ l₂ : List α} {x y : α}
    (h : links.reach starts = before ++ y :: after)
    (hqueue : starts ++ (links.reach starts).flatMap links.next = l₁ ++ y :: l₂)
    (hx : x ∈ before) : x ∈ l₁ := by
  have heq : (l₁ ++ y :: l₂).eraseDups = before ++ y :: after := by
    rw [← hqueue, ← reach_eq_eraseDups, h]
  exact mem_of_before_eraseDups heq hx

/-- What is visited before a point is no further away. -/
theorem away_of_visited_before {starts : List α} {n : Nat} {y : α} (hy : links.Away starts n y)
    {before after : List α} (h : links.reach starts = before ++ y :: after) {x : α}
    (hx : x ∈ before) : ∃ m ≤ n, links.Away starts m x := by
  induction hy generalizing before after x with
  | @start y hy =>
    obtain ⟨s, t, rfl⟩ := List.append_of_mem hy
    have hmem : x ∈ s := mem_of_visited_before h (by rw [List.append_assoc]; rfl) hx
    exact ⟨0, le_rfl, .start (List.mem_append_left _ hmem)⟩
  | @step n z y hz hstep ih =>
    -- the walk comes to `y` from `z`, so `y` is in the queue with the successors of `z`
    have hreached : z ∈ links.reach starts := mem_reach_iff.mpr (exists_away_iff.mp ⟨n, hz⟩)
    obtain ⟨earlier, later, hsplit⟩ := List.append_of_mem hreached
    obtain ⟨s, t, hnext⟩ := List.append_of_mem hstep
    have hqueue : starts ++ (links.reach starts).flatMap links.next =
        (starts ++ earlier.flatMap links.next ++ s) ++ y :: (t ++ later.flatMap links.next) := by
      rw [hsplit, List.flatMap_append, List.flatMap_cons, hnext]
      simp only [List.append_assoc, List.cons_append]
    have hmem := mem_of_visited_before h hqueue hx
    rcases List.mem_append.mp hmem with hmem | hmem
    · rcases List.mem_append.mp hmem with hmem | hmem
      · exact ⟨0, Nat.zero_le _, .start hmem⟩
      · obtain ⟨w, hw, hwx⟩ := List.mem_flatMap.mp hmem
        obtain ⟨m, hm, haway⟩ := ih hsplit hw
        exact ⟨m + 1, by omega, haway.step hwx⟩
    · have hzx : links.Step z x := by
        unfold Step
        rw [hnext]
        exact List.mem_append_left _ hmem
      exact ⟨n + 1, le_rfl, hz.step hzx⟩

theorem pairwise_distance_reach (links : Links α) (starts : List α) :
    (links.reach starts).Pairwise fun x y =>
      links.distance starts x ≤ links.distance starts y := by
  rw [List.pairwise_iff_forall_sublist]
  intro x y hxy
  obtain ⟨r₁, r₂, hsplit, hx, hy⟩ := List.cons_sublist_iff.mp hxy
  obtain ⟨s, t, rfl⟩ := List.append_of_mem (List.singleton_sublist.mp hy)
  have hreached : y ∈ links.reach starts := by
    rw [hsplit]
    simp
  have hbefore : links.reach starts = (r₁ ++ s) ++ y :: t := by rw [hsplit, List.append_assoc]
  obtain ⟨m, hm, haway⟩ := away_of_visited_before (isLeast_distance hreached).1 hbefore
    (List.mem_append_left _ hx)
  exact (Nat.sInf_le haway).trans hm

/-- **Breadth-first search is exact.** The loop over the queue, started at the starting points with
nothing visited, ends, and with what the search gives. Each point stands there once, the points are
those that walks from the starting points come to, and they stand in the order of their distance.
They are the starting points and then the successors of these points themselves, each where it first
occurs. -/
theorem reach_breadth_first (links : Links α) (starts : List α) :
    (∀ order, links.Visits starts [] order ↔ order = links.reach starts) ∧
    (links.reach starts).Nodup ∧
    (∀ y, y ∈ links.reach starts ↔ ∃ x ∈ starts, ReflTransGen links.Step x y) ∧
    (∀ x ∈ links.reach starts,
      IsLeast { n | links.Away starts n x } (links.distance starts x)) ∧
    (links.reach starts).Pairwise
      (fun x y => links.distance starts x ≤ links.distance starts y) ∧
    links.reach starts = (starts ++ (links.reach starts).flatMap links.next).eraseDups := by
  have hvisits := visits_reach links starts
  refine ⟨fun order => ⟨fun h => h.unique hvisits, ?_⟩, nodup_reach starts,
    fun _ => mem_reach_iff, fun _ => isLeast_distance, pairwise_distance_reach links starts,
    reach_eq_eraseDups links starts⟩
  rintro rfl
  exact hvisits

end Blueprint.Links
