import Blueprint.Proofs.Control

/-!
# Proofs: which loop is found

From a point that leads to a loop one can always go on to a successor that leads to a loop, too. If
the first such successor is taken each time, the walk comes back to one of its own points in the
end. The search reports exactly this: it may look at other points before, but whatever it leaves
behind leads to no loop, so that in the end its path is this walk (`Follows`).
-/

namespace Blueprint

open Relation

/-- A walk from the point comes to a closed walk. -/
def LeadsToLoop {α : Type} (step : α → α → Prop) (x : α) : Prop :=
  ∃ y, ReflTransGen step x y ∧ TransGen step y y

namespace LeadsToLoop

variable {α : Type} {step : α → α → Prop}

theorem of_step {x y : α} (hxy : step x y) (hy : LeadsToLoop step y) : LeadsToLoop step x := by
  obtain ⟨z, hwalk, hloop⟩ := hy
  exact ⟨z, .head hxy hwalk, hloop⟩

theorem exists_step {x : α} (hx : LeadsToLoop step x) : ∃ y, step x y ∧ LeadsToLoop step y := by
  obtain ⟨z, hwalk, hloop⟩ := hx
  rcases hwalk.cases_head with rfl | ⟨y, hxy, hyz⟩
  · obtain ⟨y, hxy, hyx⟩ := TransGen.head'_iff.mp hloop
    exact ⟨y, hxy, x, hyx, hloop⟩
  · exact ⟨y, hxy, z, hyz, hloop⟩

end LeadsToLoop

/-- A sequence holds at `again` what it held at `first`, and up to there nothing stood twice. -/
structure ReturnsAt {α : Type} (trail : Nat → α) (first again : Nat) : Prop where
  lt : first < again
  eq : trail first = trail again
  apart : ∀ i j, i < j → j < again → trail i ≠ trail j

/-- What a sequence holds from one place to another, both included. -/
def segment {α : Type} (trail : Nat → α) (first last : Nat) : List α :=
  (List.range' first (last + 1 - first)).map trail

theorem segment_eq_drop {α : Type} (trail : Nat → α) (first last : Nat) :
    segment trail first last = ((List.range (last + 1)).map trail).drop first := by
  unfold segment
  rw [← List.map_drop, List.range_eq_range', List.drop_range', Nat.mul_one, Nat.zero_add]

/-- If a sequence comes at `n` to what it held before, without any other repetition so far, it
returns there, and what it held in between is what stood after the first occurrence. -/
theorem returnsAt_of_split {α : Type} {trail : Nat → α} {n : Nat} {earlier later : List α}
    (h : (List.range n).map trail = earlier ++ trail n :: later)
    (hnd : ((List.range n).map trail).Nodup) :
    ReturnsAt trail earlier.length n ∧
      segment trail earlier.length n = trail n :: later ++ [trail n] := by
  have hlength : n = earlier.length + (later.length + 1) := by
    have := congrArg List.length h
    simpa using this
  have hlt : earlier.length < n := by omega
  have hget : trail earlier.length = trail n := by
    have := congrArg (·[earlier.length]?) h
    simpa [hlt] using this
  refine ⟨⟨hlt, hget, fun i j hij hj heq => ?_⟩, ?_⟩
  · have hinj := List.inj_on_of_nodup_map hnd (List.mem_range.mpr (hij.trans hj))
      (List.mem_range.mpr hj) heq
    omega
  · rw [segment_eq_drop, List.range_succ, List.map_append, h, List.append_assoc,
      List.drop_left]
    rfl

namespace Links

variable {α : Type} [DecidableEq α] {links : Links α}

theorem leadsToLoop_iff {x : α} :
    LeadsToLoop links.Step x ↔ (links.loop? [x]).isSome = true := by
  rw [← not_iff_not, Bool.not_eq_true, Option.isSome_eq_false_iff, Option.isNone_iff_eq_none,
    loop?_eq_none_iff]
  unfold LeadsToLoop
  simp

instance (links : Links α) : DecidablePred (LeadsToLoop links.Step) :=
  fun _ => decidable_of_iff _ leadsToLoop_iff.symm

/-- Nothing that is done leads to a loop. -/
theorem Clear.not_leadsToLoop {done : List α} (h : Clear links done) {x : α} (hx : x ∈ done) :
    ¬ LeadsToLoop links.Step x := by
  rintro ⟨y, hwalk, hloop⟩
  exact h.no_loop y (mem_of_walk h.step hx hwalk) hloop

/-! ## The search follows the first points that lead to a loop -/

/-- The path goes on to the first of the points ahead that leads to a loop, and from there to the
first of its successors, until it comes to a point that it went through before. -/
inductive Follows (links : Links α) : (ahead path loop : List α) → Prop
  /-- The next point stands on the path. -/
  | close {x : α} {ahead path : List α}
      (hfirst : ahead.find? (LeadsToLoop links.Step ·) = some x) (hx : x ∈ path) :
      Follows links ahead path (loopAt x path)
  /-- The next point goes on the path. -/
  | extend {x : α} {ahead path loop : List α}
      (hfirst : ahead.find? (LeadsToLoop links.Step ·) = some x) (hx : x ∉ path)
      (rest : Follows links (links.next x) (x :: path) loop) : Follows links ahead path loop

namespace Follows

variable {ahead path loop : List α}

theorem exists_first (h : Follows links ahead path loop) :
    ∃ x, ahead.find? (LeadsToLoop links.Step ·) = some x := by
  cases h with
  | close hfirst _ => exact ⟨_, hfirst⟩
  | extend hfirst _ _ => exact ⟨_, hfirst⟩

/-- A point ahead that leads to no loop makes no difference. -/
theorem cons_of_not {x : α} (h : Follows links ahead path loop)
    (hx : ¬ LeadsToLoop links.Step x) : Follows links (x :: ahead) path loop := by
  have hskip : (x :: ahead).find? (LeadsToLoop links.Step ·) =
      ahead.find? (LeadsToLoop links.Step ·) := List.find?_cons_of_neg (by simpa using hx)
  cases h with
  | close hfirst hmem => exact .close (hskip.trans hfirst) hmem
  | extend hfirst hmem rest => exact .extend (hskip.trans hfirst) hmem rest

end Follows

/-- What the search finds is where the path leads. -/
theorem follows_of_explore {todo fresh path done loop : List α}
    (h : Ready links todo fresh path done)
    (herror : links.explore todo fresh path done = .error loop) :
    Follows links todo path loop := by
  fun_induction explore links todo fresh path done with
  | case1 fresh path done => cases herror
  | case2 x todo fresh path done hx ih =>
    exact (ih (h.tail h.clear) herror).cons_of_not (h.clear.not_leadsToLoop hx)
  | case3 x todo fresh path done hdone hfresh loop' heq ih =>
    obtain rfl := Except.error.inj herror
    have hbelow := ih (h.push hfresh) heq
    -- the loop was found below `x`, so `x` leads to it
    obtain ⟨y, hy⟩ := hbelow.exists_first
    have hleads : LeadsToLoop links.Step x :=
      .of_step (List.mem_of_find?_eq_some hy) (by simpa using List.find?_some hy)
    exact .extend (List.find?_cons_of_pos (by simpa using hleads)) (h.fresh_off x hfresh) hbelow
  | case4 x todo fresh path done hdone hfresh done' heq ihb iht =>
    have hbelow := heq ▸ explored_explore (h.push hfresh)
    have hclear := hbelow.clear_cons h.fresh_nodup hdone
    exact (iht (h.tail hclear) herror).cons_of_not
      (hclear.not_leadsToLoop (List.mem_cons_self ..))
  | case5 x todo fresh path done hdone hfresh =>
    obtain rfl := Except.error.inj herror
    obtain ⟨hpath, hloop⟩ := h.isLoop hfresh
    have hleads : LeadsToLoop links.Step x := ⟨x, .refl, IsLoop.loop_head hloop⟩
    exact .close (List.find?_cons_of_pos (by simpa using hleads)) hpath

/-! ## The loop as a part of the walk -/

/-- The points that one comes to from `x` if one goes on to the first successor that leads to a loop
each time. -/
def trail (links : Links α) (x : α) : Nat → α
  | 0 => x
  | k + 1 => ((links.next (links.trail x k)).find? (LeadsToLoop links.Step ·)).getD x

/-- A point that leads to a loop has a first successor that does. -/
theorem exists_find?_next {x : α} (hx : LeadsToLoop links.Step x) :
    ∃ y, (links.next x).find? (LeadsToLoop links.Step ·) = some y := by
  obtain ⟨y, hxy, hy⟩ := hx.exists_step
  rw [← Option.isSome_iff_exists, List.find?_isSome]
  exact ⟨y, hxy, by simpa using hy⟩

/-- The trail never ends. -/
theorem find?_next_trail {x : α} (hx : LeadsToLoop links.Step x) (k : Nat) :
    (links.next (links.trail x k)).find? (LeadsToLoop links.Step ·) =
      some (links.trail x (k + 1)) := by
  have hleads : LeadsToLoop links.Step (links.trail x k) := by
    induction k with
    | zero => exact hx
    | succ k ih =>
      obtain ⟨y, hy⟩ := exists_find?_next ih
      rw [trail, hy, Option.getD_some]
      simpa using List.find?_some hy
  obtain ⟨y, hy⟩ := exists_find?_next hleads
  rw [trail, hy, Option.getD_some]

/-- If the path is the beginning of a trail, and the trail goes on with the first point ahead, then
the path closes where the trail returns for the first time. -/
theorem Follows.segment {ahead path loop : List α} (h : Follows links ahead path loop)
    {trail : Nat → α} (hpath : path.reverse = (List.range path.length).map trail)
    (hnd : path.Nodup)
    (hahead : ahead.find? (LeadsToLoop links.Step ·) = some (trail path.length))
    (htrail : ∀ k, (links.next (trail k)).find? (LeadsToLoop links.Step ·) = some (trail (k + 1))) :
    ∃ first again, ReturnsAt trail first again ∧ loop = segment trail first again := by
  induction h with
  | @close x ahead path hfirst hx =>
    obtain rfl : x = trail path.length := Option.some.inj (hfirst.symm.trans hahead)
    obtain ⟨later, earlier, hsplit, hloop⟩ := loopAt_eq hx
    have hwalked : (List.range path.length).map trail =
        earlier.reverse ++ trail path.length :: later.reverse := by
      rw [← hpath]
      nth_rewrite 1 [hsplit]
      simp
    have hnd' : ((List.range path.length).map trail).Nodup := by
      rw [← hpath, List.nodup_reverse]
      exact hnd
    obtain ⟨hreturns, hsegment⟩ := returnsAt_of_split hwalked hnd'
    exact ⟨_, _, hreturns, hloop.trans hsegment.symm⟩
  | @extend x ahead path loop hfirst hx rest ih =>
    obtain rfl : x = trail path.length := Option.some.inj (hfirst.symm.trans hahead)
    refine ih ?_ (List.nodup_cons.mpr ⟨hx, hnd⟩) (htrail path.length)
    rw [List.reverse_cons, hpath, List.length_cons, List.range_succ, List.map_append]
    rfl

/-- What the search reports is a part of the trail from the first starting point that leads to a
loop. -/
theorem exists_segment_of_loop? {starts loop : List α} (h : links.loop? starts = some loop) :
    ∃ trail : Nat → α, starts.find? (LeadsToLoop links.Step ·) = some (trail 0) ∧
      (∀ k, (links.next (trail k)).find? (LeadsToLoop links.Step ·) = some (trail (k + 1))) ∧
      ∃ first again, ReturnsAt trail first again ∧ loop = segment trail first again := by
  have herror : links.explore starts (links.points starts) [] [] = .error loop := by
    unfold loop? at h
    split at h
    · next heq =>
      obtain rfl := Option.some.inj h
      exact heq
    · cases h
  have hfollows := follows_of_explore (Ready.start links starts) herror
  obtain ⟨x, hx⟩ := hfollows.exists_first
  have hleads : LeadsToLoop links.Step x := by simpa using List.find?_some hx
  refine ⟨links.trail x, hx, find?_next_trail hleads, ?_⟩
  exact hfollows.segment rfl List.nodup_nil hx (find?_next_trail hleads)

end Links

/-! ## Control flow -/

instance (edges : List Edge) : DecidablePred (LeadsToLoop (ControlStep edges)) :=
  fun a => decidable_of_iff (LeadsToLoop (controlLinks edges).Step a)
    (by rw [step_controlLinks])

theorem find?_leadsToLoop (edges : List Edge) (names : List String) :
    names.find? (LeadsToLoop (controlLinks edges).Step ·) =
      names.find? (LeadsToLoop (ControlStep edges) ·) := by
  congr 1
  funext a
  rw [decide_eq_decide, step_controlLinks]

/-- **Which cycle is reported.** Go from the first node that leads to a cycle, in the order of
declaration, to the first name after it that does, in the order of the edges, and so on. This never
ends, and the cycle reported is what lies between the first name that comes up a second time and its
first occurrence. -/
theorem controlLoop_eq_segment (nodes : List Node) (edges : List Edge) (walk : List String)
    (h : (controlLinks edges).loop? (nodes.map (·.id)) = some walk) :
    ∃ trail : Nat → String,
      (nodes.map (·.id)).find? (LeadsToLoop (ControlStep edges) ·) = some (trail 0) ∧
      (∀ k, (controlTargets edges (trail k)).find? (LeadsToLoop (ControlStep edges) ·) =
        some (trail (k + 1))) ∧
      ∃ first again, ReturnsAt trail first again ∧ walk = segment trail first again := by
  obtain ⟨trail, hstart, hnext, hsegment⟩ := Links.exists_segment_of_loop? h
  refine ⟨trail, ?_, fun k => ?_, hsegment⟩
  · rw [← find?_leadsToLoop, hstart]
  · rw [← find?_leadsToLoop, ← next_controlLinks, hnext]

/-- Dead ends stand before the nodes and the edges that lead to the cycle, another cycle after
them. -/
theorem controlLoop_eq_segment_past_dead_ends :
    let nodes : List Node := [{ id := "d", role := .exit }, { id := "a", role := .operation },
      { id := "z", role := .operation }]
    let edges : List Edge :=
      [{ id := "1", source := "z", target := "z" }, { id := "2", source := "a", target := "d" },
       { id := "3", source := "a", target := "b" }, { id := "4", source := "b", target := "d" },
       { id := "5", source := "b", target := "c" }, { id := "6", source := "b", target := "z" },
       { id := "7", source := "c", target := "b" }]
    (controlLinks edges).loop? (nodes.map (·.id)) = some ["b", "c", "b"] ∧
      ∃ trail : Nat → String, trail 0 = "a" ∧
        (∀ k, (controlTargets edges (trail k)).find? (LeadsToLoop (ControlStep edges) ·) =
          some (trail (k + 1))) ∧
        ∃ first again, ReturnsAt trail first again ∧
          ["b", "c", "b"] = segment trail first again := by
  intro nodes edges
  have h : (controlLinks edges).loop? (nodes.map (·.id)) = some ["b", "c", "b"] := by cbv
  have hfirst : (nodes.map (·.id)).find? (LeadsToLoop (ControlStep edges) ·) = some "a" := by cbv
  obtain ⟨trail, hstart, hnext, hsegment⟩ := controlLoop_eq_segment nodes edges _ h
  exact ⟨h, trail, Option.some.inj (hstart.symm.trans hfirst), hnext, hsegment⟩

end Blueprint
