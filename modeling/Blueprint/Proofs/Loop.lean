import Blueprint.Search.Loop
import Blueprint.Proofs.Links

/-!
# Proofs: finding a loop

The search keeps three things in step: the path is a chain of steps that leads to every point still
to do, the fresh points are those off the path, and what is done leads to done points only and to
no loop (`Ready`). So a step back to the path closes a loop, and a search that ends without one has
left nothing that a loop could hide in (`Explored`).

The fresh points are there for the search to end; without them it is a loop over the points of its
path, each with the successors still to look at (`Searches`).
-/

namespace Blueprint.Links

open Relation

variable {α : Type} [DecidableEq α] {links : Links α}

/-- A loop: each point is a successor of the one before it, the last point is the first one, and
apart from that no point occurs twice. -/
structure IsLoop (links : Links α) (walk : List α) : Prop where
  length_le : 2 ≤ walk.length
  ends : walk.head? = walk.getLast?
  nodup : walk.dropLast.Nodup
  chain : walk.IsChain links.Step

/-- A walk leads back to the point where a loop begins. -/
theorem IsLoop.loop_head {x : α} {rest : List α} (h : links.IsLoop (x :: rest)) :
    TransGen links.Step x x := by
  match rest, h with
  | [], h => exact absurd h.length_le (by simp)
  | y :: rest, h =>
    have hlast : (y :: rest).getLast? = some x := by
      have := h.ends
      rw [List.head?_cons, List.getLast?_cons_cons] at this
      exact this.symm
    obtain ⟨hxy, hchain⟩ := List.isChain_cons_cons.mp h.chain
    have hwalk := List.relationReflTransGen_of_exists_isChain (y :: rest) hchain (by simp)
    rw [List.head_cons, (List.getLast_eq_iff_getLast?_eq_some (by simp)).mpr hlast] at hwalk
    exact .head' hxy hwalk

theorem IsLoop.exists_loop {walk : List α} (h : links.IsLoop walk) :
    ∃ x ∈ walk, TransGen links.Step x x := by
  match walk, h with
  | [], h => exact absurd h.length_le (by simp)
  | x :: rest, h => exact ⟨x, List.mem_cons_self .., h.loop_head⟩

/-! ## Closing a loop -/

/-- The first occurrence of a point of the path splits it. -/
theorem loopAt_eq {x : α} {path : List α} (hx : x ∈ path) :
    ∃ later earlier, path = later ++ x :: earlier ∧ loopAt x path = x :: later.reverse ++ [x] := by
  obtain ⟨later, earlier, hpath, hnot⟩ := List.eq_append_cons_of_mem hx
  refine ⟨later, earlier, hpath, ?_⟩
  unfold loopAt
  rw [hpath, List.takeWhile_append_of_pos]
  · simp
  · intro y hy
    have : y ≠ x := fun e => hnot (e ▸ hy)
    simpa using this

theorem mem_path_of_mem_loopAt {x y : α} {path : List α} (hx : x ∈ path)
    (hy : y ∈ loopAt x path) : y ∈ path := by
  obtain ⟨later, earlier, hpath, hloop⟩ := loopAt_eq hx
  rw [hloop] at hy
  rw [hpath]
  simp only [List.cons_append, List.mem_cons, List.mem_append, List.mem_reverse] at hy ⊢
  tauto

/-- A step back to the path closes a loop. -/
theorem isLoop_loopAt {x : α} {path : List α} (hx : x ∈ path) (hnd : path.Nodup)
    (hchain : path.IsChain fun a b => links.Step b a) (hstep : ∀ p ∈ path.head?, links.Step p x) :
    links.IsLoop (loopAt x path) := by
  obtain ⟨later, earlier, hpath, hloop⟩ := loopAt_eq hx
  have hsplit : path = (later ++ [x]) ++ earlier := by rw [hpath]; simp
  have hrev : (later ++ [x]).reverse = x :: later.reverse := by simp
  rw [hloop]
  refine ⟨by simp, by rw [List.getLast?_concat]; rfl, ?_, ?_⟩
  · rw [List.dropLast_concat, ← hrev, List.nodup_reverse]
    rw [hsplit] at hnd
    exact (List.nodup_append.mp hnd).1
  · rw [← hrev]
    refine List.IsChain.append ?_ (.singleton _) ?_
    · rw [List.isChain_reverse]
      exact hchain.prefix ⟨earlier, hsplit.symm⟩
    · intro p hp y hy
      have hyx : x = y := by simpa using hy
      rw [← hyx]
      apply hstep
      rw [List.getLast?_reverse] at hp
      rw [hsplit, List.head?_append_of_ne_nil _ (by simp)]
      exact hp

/-! ## The invariant -/

/-- Points that are done: they lead to done points only, and none of them lies on a loop. -/
structure Clear (links : Links α) (done : List α) : Prop where
  step : ∀ x ∈ done, ∀ y, links.Step x y → y ∈ done
  no_loop : ∀ x ∈ done, ¬ TransGen links.Step x x

theorem Clear.cons {x : α} {done : List α} (h : Clear links done) (hx : x ∉ done)
    (hstep : ∀ y, links.Step x y → y ∈ done) : Clear links (x :: done) := by
  constructor
  · intro y hy z hyz
    rcases List.mem_cons.mp hy with rfl | hy
    · exact List.mem_cons_of_mem _ (hstep z hyz)
    · exact List.mem_cons_of_mem _ (h.step y hy z hyz)
  · intro y hy hloop
    rcases List.mem_cons.mp hy with rfl | hy
    · obtain ⟨b, hyb, hwalk⟩ := TransGen.head'_iff.mp hloop
      exact hx (mem_of_walk h.step (hstep b hyb) hwalk)
    · exact h.no_loop y hy hloop

/-- How the points to do, the fresh points, the path and the done points hang together. -/
structure Ready (links : Links α) (todo fresh path done : List α) : Prop where
  clear : Clear links done
  chain : path.IsChain fun a b => links.Step b a
  nodup : path.Nodup
  fresh_nodup : fresh.Nodup
  fresh_off : ∀ x ∈ fresh, x ∉ path
  todo_step : ∀ p ∈ path.head?, ∀ t ∈ todo, links.Step p t
  walk_fresh : ∀ t ∈ todo, ∀ y, ReflTransGen links.Step t y → y ∉ path → y ∈ fresh

namespace Ready

variable {x : α} {todo fresh path done done' : List α}

theorem start (links : Links α) (starts : List α) :
    Ready links starts (links.points starts) [] [] := by
  refine ⟨⟨by simp, by simp⟩, .nil, List.nodup_nil, nodup_eraseDups _, by simp, by simp, ?_⟩
  intro t ht y hwalk _
  exact mem_points_of_walk ht hwalk

theorem tail (h : Ready links (x :: todo) fresh path done) (hc : Clear links done') :
    Ready links todo fresh path done' :=
  ⟨hc, h.chain, h.nodup, h.fresh_nodup, h.fresh_off,
    fun p hp t ht => h.todo_step p hp t (List.mem_cons_of_mem _ ht),
    fun t ht => h.walk_fresh t (List.mem_cons_of_mem _ ht)⟩

/-- A fresh point goes on the path, and its successors are to do. -/
theorem push (h : Ready links (x :: todo) fresh path done) (hx : x ∈ fresh) :
    Ready links (links.next x) (fresh.erase x) (x :: path) done := by
  refine ⟨h.clear, ?_, ?_, h.fresh_nodup.erase x, ?_, ?_, ?_⟩
  · exact h.chain.cons fun p hp => h.todo_step p hp x (List.mem_cons_self ..)
  · exact List.nodup_cons.mpr ⟨h.fresh_off x hx, h.nodup⟩
  · intro y hy hmem
    rcases List.mem_cons.mp hmem with rfl | hmem
    · exact h.fresh_nodup.not_mem_erase hy
    · exact h.fresh_off y (List.mem_of_mem_erase hy) hmem
  · intro p hp t ht
    have hpx : x = p := by simpa using hp
    exact hpx ▸ ht
  · intro t ht y hwalk hy
    rw [List.mem_cons, not_or] at hy
    exact (List.mem_erase_of_ne hy.1).mpr
      (h.walk_fresh x (List.mem_cons_self ..) y (.head ht hwalk) hy.2)

/-- A point that is not fresh stands on the path, and the path closes there. -/
theorem isLoop (h : Ready links (x :: todo) fresh path done) (hx : x ∉ fresh) :
    x ∈ path ∧ links.IsLoop (loopAt x path) := by
  have hpath : x ∈ path := by
    by_contra hcon
    exact hx (h.walk_fresh x (List.mem_cons_self ..) x .refl hcon)
  exact ⟨hpath, isLoop_loopAt hpath h.nodup h.chain fun p hp =>
    h.todo_step p hp x (List.mem_cons_self ..)⟩

end Ready

/-- What a search below `todo` answers: a loop on the path or ahead, or more points that are done,
those of `todo` among them. -/
def Explored (links : Links α) (todo fresh path done : List α) : Except (List α) (List α) → Prop
  | .ok done' => Clear links done' ∧ (∀ t ∈ todo, t ∈ done') ∧ (∀ x ∈ done, x ∈ done') ∧
      ∀ x ∈ done', x ∈ done ∨ x ∈ fresh
  | .error loop => links.IsLoop loop ∧
      ∀ y ∈ loop, y ∈ path ∨ ∃ t ∈ todo, ReflTransGen links.Step t y

namespace Explored

variable {x : α} {todo fresh path done done' : List α} {r : Except (List α) (List α)}

/-- A point that is done need not be looked at. -/
theorem cons_done (h : Explored links todo fresh path done r) (hx : x ∈ done) :
    Explored links (x :: todo) fresh path done r := by
  cases r with
  | ok done' =>
    obtain ⟨hclear, htodo, hmono, hfrom⟩ := h
    refine ⟨hclear, fun t ht => ?_, hmono, hfrom⟩
    rcases List.mem_cons.mp ht with rfl | ht
    · exact hmono t hx
    · exact htodo t ht
  | error loop =>
    refine ⟨h.1, fun y hy => (h.2 y hy).imp_right ?_⟩
    rintro ⟨t, ht, hwalk⟩
    exact ⟨t, List.mem_cons_of_mem _ ht, hwalk⟩

/-- What was done in between was fresh before. -/
theorem of_subset (h : Explored links todo fresh path done' r) (hmono : ∀ y ∈ done, y ∈ done')
    (hfrom : ∀ y ∈ done', y ∈ done ∨ y ∈ fresh) : Explored links todo fresh path done r := by
  cases r with
  | ok last =>
    obtain ⟨hclear, htodo, hmono', hfrom'⟩ := h
    refine ⟨hclear, htodo, fun y hy => hmono' y (hmono y hy), fun y hy => ?_⟩
    rcases hfrom' y hy with hy | hy
    · exact hfrom y hy
    · exact Or.inr hy
  | error loop => exact h

/-- After its successors a point is done, too: they were done while the path was still open at it. -/
theorem clear_cons (h : Explored links (links.next x) (fresh.erase x) (x :: path) done (.ok done'))
    (hfresh : fresh.Nodup) (hx : x ∉ done) : Clear links (x :: done') := by
  obtain ⟨hclear, hnext, -, hfrom⟩ := h
  refine hclear.cons (fun hmem => ?_) hnext
  rcases hfrom x hmem with hmem | hmem
  · exact hx hmem
  · exact hfresh.not_mem_erase hmem

end Explored

/-- Every search meets its specification. -/
theorem explored_explore {todo fresh path done : List α} (h : Ready links todo fresh path done) :
    Explored links todo fresh path done (links.explore todo fresh path done) := by
  fun_induction explore links todo fresh path done with
  | case1 fresh path done => exact ⟨h.clear, by simp, fun _ hx => hx, fun _ hx => Or.inl hx⟩
  | case2 x todo fresh path done hx ih =>
    exact (ih (h.tail h.clear)).cons_done hx
  | case3 x todo fresh path done hdone hfresh loop heq ih =>
    obtain ⟨hloop, hmem⟩ := heq ▸ ih (h.push hfresh)
    refine ⟨hloop, fun y hy => ?_⟩
    rcases hmem y hy with hy | hy
    · rcases List.mem_cons.mp hy with rfl | hy
      · exact Or.inr ⟨y, List.mem_cons_self .., .refl⟩
      · exact Or.inl hy
    · exact Or.inr ⟨x, List.mem_cons_self .., walk_of_next hy⟩
  | case4 x todo fresh path done hdone hfresh done' heq ihb iht =>
    have hbelow := heq ▸ ihb (h.push hfresh)
    have hrest := iht (h.tail (hbelow.clear_cons h.fresh_nodup hdone))
    obtain ⟨-, -, hmono, hfrom⟩ := hbelow
    refine (hrest.cons_done (List.mem_cons_self ..)).of_subset ?_ ?_
    · intro y hy
      exact List.mem_cons_of_mem _ (hmono y hy)
    · intro y hy
      rcases List.mem_cons.mp hy with rfl | hy
      · exact Or.inr hfresh
      · exact (hfrom y hy).imp_right List.mem_of_mem_erase
  | case5 x todo fresh path done hdone hfresh =>
    obtain ⟨hpath, hloop⟩ := h.isLoop hfresh
    exact ⟨hloop, fun y hy => Or.inl (mem_path_of_mem_loopAt hpath hy)⟩

/-- The search from the starting points answers with a loop, or with points that are done. -/
theorem explored_starts (links : Links α) (starts : List α) :
    Explored links starts (links.points starts) [] []
      (links.explore starts (links.points starts) [] []) :=
  explored_explore (Ready.start links starts)

/-- What the search reports is a loop that walks from the starting points come to. -/
theorem isLoop_of_loop? {starts walk : List α} (h : links.loop? starts = some walk) :
    links.IsLoop walk ∧ ∀ y ∈ walk, ∃ t ∈ starts, ReflTransGen links.Step t y := by
  have hex := explored_starts links starts
  unfold loop? at h
  cases heq : links.explore starts (links.points starts) [] [] with
  | ok done =>
    rw [heq] at h
    cases h
  | error loop =>
    rw [heq] at h hex
    cases h
    exact ⟨hex.1, fun y hy => (hex.2 y hy).resolve_left (by simp)⟩

/-- The search reports nothing exactly if no walk from a starting point comes to a loop. -/
theorem loop?_eq_none_iff {starts : List α} :
    links.loop? starts = none ↔
      ∀ t ∈ starts, ∀ x, ReflTransGen links.Step t x → ¬ TransGen links.Step x x := by
  constructor
  · intro h t ht x hwalk
    have hex := explored_starts links starts
    unfold loop? at h
    cases heq : links.explore starts (links.points starts) [] [] with
    | ok done =>
      rw [heq] at hex
      obtain ⟨hclear, hstarts, -, -⟩ := hex
      exact hclear.no_loop x (mem_of_walk hclear.step (hstarts t ht) hwalk)
    | error loop =>
      rw [heq] at h
      cases h
  · intro h
    cases heq : links.loop? starts with
    | none => rfl
    | some walk =>
      obtain ⟨hloop, hwalk⟩ := isLoop_of_loop? heq
      obtain ⟨x, hx, hxx⟩ := hloop.exists_loop
      obtain ⟨t, ht, htx⟩ := hwalk x hx
      exact absurd hxx (h t ht x htx)

/-! ## The loop over the path -/

/-- A run of the search as a loop, from the starting points that are left, the frames and the points
done so far to the answer. A frame is a point of the path with those of its successors that were
not looked at yet; the last one comes first. -/
inductive Searches (links : Links α) :
    (starts : List α) → (frames : List (α × List α)) → (done : List α) → Option (List α) → Prop
  /-- No starting point is left. -/
  | finish {done : List α} : Searches links [] [] done none
  /-- A starting point that is done is passed over. -/
  | skip {x : α} {starts done : List α} {found : Option (List α)} (hx : x ∈ done)
      (rest : Searches links starts [] done found) : Searches links (x :: starts) [] done found
  /-- A path begins at any other starting point. -/
  | start {x : α} {starts done : List α} {found : Option (List α)} (hx : x ∉ done)
      (rest : Searches links starts [(x, links.next x)] done found) :
      Searches links (x :: starts) [] done found
  /-- The last point of the path has no more successors: it is done. -/
  | leave {x : α} {starts done : List α} {frames : List (α × List α)} {found : Option (List α)}
      (rest : Searches links starts frames (x :: done) found) :
      Searches links starts ((x, []) :: frames) done found
  /-- A successor on the path closes a loop. -/
  | close {x y : α} {ys starts done : List α} {frames : List (α × List α)}
      (hpath : y ∈ x :: frames.map (·.1)) :
      Searches links starts ((x, y :: ys) :: frames) done
        (some (loopAt y (x :: frames.map (·.1))))
  /-- A successor that is done is passed over. -/
  | pass {x y : α} {ys starts done : List α} {frames : List (α × List α)}
      {found : Option (List α)} (hpath : y ∉ x :: frames.map (·.1)) (hy : y ∈ done)
      (rest : Searches links starts ((x, ys) :: frames) done found) :
      Searches links starts ((x, y :: ys) :: frames) done found
  /-- The path goes on to any other successor. -/
  | extend {x y : α} {ys starts done : List α} {frames : List (α × List α)}
      {found : Option (List α)} (hpath : y ∉ x :: frames.map (·.1)) (hy : y ∉ done)
      (rest : Searches links starts ((y, links.next y) :: (x, ys) :: frames) done found) :
      Searches links starts ((x, y :: ys) :: frames) done found

/-- At most one turn is possible each time, so there is one answer. -/
theorem Searches.unique {starts done : List α} {frames : List (α × List α)}
    {found found' : Option (List α)} (h : links.Searches starts frames done found)
    (h' : links.Searches starts frames done found') : found = found' := by
  induction h generalizing found' with
  | finish =>
    cases h'
    rfl
  | skip hx _ ih =>
    cases h' with
    | skip _ h' => exact ih h'
    | start hx' _ => exact absurd hx hx'
  | start hx _ ih =>
    cases h' with
    | skip hx' _ => exact absurd hx' hx
    | start _ h' => exact ih h'
  | leave _ ih =>
    cases h' with
    | leave h' => exact ih h'
  | close hpath =>
    cases h' with
    | close _ => rfl
    | pass hpath' _ _ => exact absurd hpath hpath'
    | extend hpath' _ _ => exact absurd hpath hpath'
  | pass hpath hy _ ih =>
    cases h' with
    | close hpath' => exact absurd hpath' hpath
    | pass _ _ h' => exact ih h'
    | extend _ hy' _ => exact absurd hy hy'
  | extend hpath hy _ ih =>
    cases h' with
    | close hpath' => exact absurd hpath' hpath
    | pass _ hy' _ => exact absurd hy' hy
    | extend _ _ h' => exact ih h'

/-- How a run goes on after the search below some points: a loop is the answer, and without one the
run continues with what is done. -/
def Resumes (links : Links α) (starts : List α) (frames : List (α × List α))
    (found : Option (List α)) : Except (List α) (List α) → Prop
  | .error loop => found = some loop
  | .ok done => links.Searches starts frames done found

/-- The search below the successors of the last point of the path is the part of the run in which
that point stays on the path. -/
theorem searches_of_explore {x : α} {todo fresh path done starts : List α}
    {frames : List (α × List α)} {found : Option (List α)} (hpath : path = x :: frames.map (·.1))
    (h : Ready links todo fresh path done) (hoff : ∀ y ∈ path, y ∉ done)
    (hresumes : links.Resumes starts ((x, []) :: frames) found
      (links.explore todo fresh path done)) :
    links.Searches starts ((x, todo) :: frames) done found := by
  fun_induction explore links todo fresh path done generalizing x frames found with
  | case1 fresh path done => exact hresumes
  | case2 y todo fresh path done hy ih =>
    exact .pass (fun hmem => hoff y (hpath ▸ hmem) hy) hy
      (ih hpath (h.tail h.clear) hoff hresumes)
  | case3 y todo fresh path done hdone hfresh loop heq ih =>
    have hoff' : ∀ z ∈ y :: path, z ∉ done := List.forall_mem_cons.mpr ⟨hdone, hoff⟩
    refine .extend (hpath ▸ h.fresh_off y hfresh) hdone ?_
    exact ih (by rw [hpath]; rfl) (h.push hfresh) hoff' (heq ▸ hresumes)
  | case4 y todo fresh path done hdone hfresh done' heq ihb iht =>
    have hbelow := heq ▸ explored_explore (h.push hfresh)
    have hclear := hbelow.clear_cons h.fresh_nodup hdone
    -- what became done below `y` was fresh before, and so off the path
    have hoff' : ∀ z ∈ path, z ∉ y :: done' := by
      intro z hz hmem
      rcases List.mem_cons.mp hmem with rfl | hmem
      · exact h.fresh_off z hfresh hz
      · rcases hbelow.2.2.2 z hmem with hmem | hmem
        · exact hoff z hz hmem
        · exact h.fresh_off z (List.mem_of_mem_erase hmem) hz
    have hrest := iht hpath (h.tail hclear) hoff' hresumes
    refine .extend (hpath ▸ h.fresh_off y hfresh) hdone ?_
    exact ihb (by rw [hpath]; rfl) (h.push hfresh) (List.forall_mem_cons.mpr ⟨hdone, hoff⟩)
      (heq ▸ .leave hrest)
  | case5 y todo fresh path done hdone hfresh =>
    obtain ⟨hmem, -⟩ := h.isLoop hfresh
    rw [show found = some (loopAt y path) from hresumes, hpath]
    exact .close (hpath ▸ hmem)

/-- The search from the starting points is a whole run. -/
theorem searches_of_explore_starts {starts fresh done : List α} {found : Option (List α)}
    (h : Ready links starts fresh [] done)
    (hresumes : links.Resumes [] [] found (links.explore starts fresh [] done)) :
    links.Searches starts [] done found := by
  induction starts generalizing done with
  | nil =>
    rw [explore] at hresumes
    exact hresumes
  | cons x starts ih =>
    by_cases hdone : x ∈ done
    · rw [explore, if_pos hdone] at hresumes
      exact .skip hdone (ih (h.tail h.clear) hresumes)
    have hfresh : x ∈ fresh := h.walk_fresh x (List.mem_cons_self ..) x .refl (by simp)
    rw [explore, if_neg hdone, dif_pos hfresh] at hresumes
    have hbelow := explored_explore (h.push hfresh)
    have hframe : links.Resumes starts [(x, [])] found
        (links.explore (links.next x) (fresh.erase x) [x] done) := by
      cases heq : links.explore (links.next x) (fresh.erase x) [x] done with
      | error loop =>
        rw [heq] at hresumes
        exact hresumes
      | ok done' =>
        rw [heq] at hresumes hbelow
        exact .leave (ih (h.tail (hbelow.clear_cons h.fresh_nodup hdone)) hresumes)
    exact .start hdone (searches_of_explore rfl (h.push hfresh) (by simpa using hdone) hframe)

/-- What the search reports is the answer of the loop, which always comes to an end. -/
theorem searches_iff {starts : List α} {found : Option (List α)} :
    links.Searches starts [] [] found ↔ links.loop? starts = found := by
  have hrun : links.Searches starts [] [] (links.loop? starts) := by
    refine searches_of_explore_starts (Ready.start links starts) ?_
    unfold loop?
    cases links.explore starts (links.points starts) [] [] with
    | error loop => rfl
    | ok done => exact .finish
  exact ⟨fun h => hrun.unique h, fun h => h ▸ hrun⟩

end Blueprint.Links
