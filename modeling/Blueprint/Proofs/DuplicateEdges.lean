import Blueprint.Proofs.RuleFindings

/-!
# Proofs: edges that repeat an earlier one

The inspection walks over the legal edges with the signatures seen so far. Here the walk is compared
with positions: an edge is reported if and only if one that is alike stands before it. What is
reported of the edges that are alike does not depend on the other edges.
-/

namespace Blueprint

/-! ## The walk -/

section Walk

variable {α β : Type} [DecidableEq β] (key : α → β)

/-- The walk asks of the keys seen so far only which ones they are. -/
theorem repeated_congr {seen seen' : List β} (h : ∀ k, k ∈ seen ↔ k ∈ seen') (xs : List α) :
    repeated key seen xs = repeated key seen' xs := by
  induction xs generalizing seen seen' with
  | nil => rfl
  | cons x xs ih =>
    have hmore : ∀ k, k ∈ key x :: seen ↔ k ∈ key x :: seen' := by
      intro k
      rw [List.mem_cons, List.mem_cons, h]
    rw [repeated, repeated, ih h, ih hmore]
    simp only [h]

/-- The walk picks the members whose key was seen at the start or belongs to an earlier member. -/
theorem repeated_eq (seen : List β) (xs : List α) :
    repeated key seen xs = ((List.finRange xs.length).filter fun i =>
      key (xs.get i) ∈ seen ∨ ∃ j < i, key (xs.get j) = key (xs.get i)).map xs.get := by
  induction xs generalizing seen with
  | nil => rfl
  | cons x xs ih =>
    let marked (i : Fin (xs.length + 1)) : Bool :=
      key ((x :: xs).get i) ∈ seen ∨ ∃ j < i, key ((x :: xs).get j) = key ((x :: xs).get i)
    have hhead : marked 0 = true ↔ key x ∈ seen := by
      refine decide_eq_true_iff.trans ?_
      simp
    -- A member before one of the tail is the head, which is seen from then on, or is in the tail.
    have htail : ∀ i : Fin xs.length, marked i.succ = true ↔
        key (xs.get i) ∈ key x :: seen ∨ ∃ j < i, key (xs.get j) = key (xs.get i) := by
      intro i
      have hearlier : (∃ j < i.succ, key ((x :: xs).get j) = key (xs.get i)) ↔
          key (xs.get i) = key x ∨ ∃ j < i, key (xs.get j) = key (xs.get i) := by
        rw [Fin.exists_fin_succ]
        simp [Fin.succ_pos, eq_comm]
      rw [List.mem_cons, or_assoc, or_left_comm, ← hearlier]
      exact decide_eq_true_iff
    have hrest : (((List.finRange xs.length).map Fin.succ).filter marked).map (x :: xs).get =
        repeated key (key x :: seen) xs := by
      rw [ih, List.filter_map, List.map_map]
      refine congrArg _ (List.filter_congr fun i _ => ?_)
      rw [Bool.eq_iff_iff, decide_eq_true_iff]
      exact htail i
    show _ = ((List.finRange (xs.length + 1)).filter marked).map (x :: xs).get
    rw [repeated, List.finRange_succ]
    by_cases hx : key x ∈ seen
    · have hknown : ∀ k, k ∈ key x :: seen ↔ k ∈ seen := by
        intro k
        rw [List.mem_cons, or_iff_right_of_imp]
        rintro rfl
        exact hx
      rw [if_pos hx, List.filter_cons_of_pos (hhead.mpr hx), List.map_cons, hrest,
        repeated_congr key hknown]
      rfl
    · rw [if_neg hx, List.filter_cons_of_neg (hx ∘ hhead.mp), hrest]

/-- Among the members of one key the walk is as if there were no others. -/
theorem filter_repeated (k : β) {seen seen' : List β} (h : k ∈ seen ↔ k ∈ seen') (xs : List α) :
    (repeated key seen xs).filter (key · = k) =
      repeated key seen' (xs.filter (key · = k)) := by
  induction xs generalizing seen seen' with
  | nil => rfl
  | cons x xs ih =>
    by_cases hk : key x = k
    · have hboth : k ∈ key x :: seen ↔ k ∈ key x :: seen' := by simp [hk]
      have hseen : key x ∈ seen ↔ key x ∈ seen' := by rw [hk, h]
      rw [List.filter_cons_of_pos (by simpa using hk), repeated, repeated]
      by_cases hx : key x ∈ seen
      · rw [if_pos hx, if_pos (hseen.mp hx), List.filter_cons_of_pos (by simpa using hk), ih h]
      · rw [if_neg hx, if_neg (hx ∘ hseen.mpr), ih hboth]
    · have hmore : k ∈ key x :: seen ↔ k ∈ seen' := by
        rw [List.mem_cons, or_iff_right (Ne.symm hk), h]
      rw [List.filter_cons_of_neg (by simpa using hk), repeated]
      by_cases hx : key x ∈ seen
      · rw [if_pos hx, List.filter_cons_of_neg (by simpa using hk), ih h]
      · rw [if_neg hx, ih hmore]

end Walk

/-! ## Edges alike -/

/-- The edges have the same ends, carry the same, and leave and arrive at the same ports. -/
structure Edge.Alike (e e' : Edge) : Prop where
  source : e.source = e'.source
  target : e.target = e'.target
  flow : e.flow = e'.flow
  sourcePort : e.ports.1 = e'.ports.1
  targetPort : e.ports.2 = e'.ports.2

namespace Inspection

/-- Edges are alike if the inspection cannot tell them apart. -/
theorem signature_eq_iff {e e' : Edge} : signature e = signature e' ↔ e.Alike e' := by
  unfold signature
  constructor
  · intro h
    simp only [Prod.ext_iff] at h
    obtain ⟨hsource, htarget, hflow, hleft, hright⟩ := h
    exact ⟨hsource, htarget, hflow, hleft, hright⟩
  · rintro ⟨hsource, htarget, hflow, hleft, hright⟩
    rw [hsource, htarget, hflow, Prod.ext hleft hright]

end Inspection

instance : DecidableRel Edge.Alike :=
  fun _ _ => decidable_of_iff _ Inspection.signature_eq_iff

/-- The issue is that an edge like this one is repeated. -/
def Issue.repeatsLike (e : Edge) : Issue → Bool
  | edgeDuplicate e' => e'.Alike e
  | _ => false

namespace Inspection

/-- All issues of this rule come from the walk over the legal edges. -/
theorem filter_edgeDuplicate (d : Diagram) (p : Palette) :
    (d.issues p).filter (·.rule = .edgeDuplicate) = duplicates d := by
  refine filter_issues_of_part (by decide) rfl fun hnodes => ?_
  have hlegal : d.legalEdges = [] := by
    refine List.eq_nil_iff_forall_not_mem.mpr fun e he => ?_
    have hsource : e.source ∈ d.ids := (Diagram.mem_legalEdges.mp he).2.1
    rw [Diagram.ids, hnodes] at hsource
    cases hsource
  rw [duplicates, hlegal]
  rfl

/-- The walk reports the legal edges before which a legal edge stands that is alike. -/
theorem duplicates_eq (d : Diagram) :
    duplicates d = ((List.finRange d.legalEdges.length).filter fun i =>
      ∃ j < i, (d.legalEdges.get j).Alike (d.legalEdges.get i)).map
        fun i => .edgeDuplicate (d.legalEdges.get i) := by
  unfold duplicates
  rw [repeated_eq, List.map_map]
  simp only [List.not_mem_nil, false_or, signature_eq_iff]
  rfl

/-- If only the edges that are like one of them are kept, the issues about these remain. -/
theorem duplicates_alike (d : Diagram) (e : Edge) :
    duplicates { d with edges := d.edges.filter fun e' => e'.Alike e } =
      (duplicates d).filter (·.repeatsLike e) := by
  have hlegal : ({ d with edges := d.edges.filter fun e' => e'.Alike e } : Diagram).legalEdges =
      d.legalEdges.filter (signature · = signature e) := by
    simp only [signature_eq_iff]
    exact List.filter_comm ..
  unfold duplicates
  rw [hlegal, ← filter_repeated signature (signature e) Iff.rfl, List.filter_map]
  simp only [signature_eq_iff]
  rfl

end Inspection

/-- **Edges that repeat an earlier one are reported exactly.** There is one issue under this rule for
each edge between two nodes before which such an edge stands that is alike, in the order of the
edges. So the issues and the signatures of these edges are together as many as the edges. Edges that
are not alike do not count for each other: without them, the issues about the others are the same. -/
theorem Diagram.duplicates_reported_exactly (d : Diagram) (p : Palette) :
    let legal := d.edges.filter fun e => d.Joins e
    let found (d : Diagram) := (d.inspect p).issues.filter (·.rule = .edgeDuplicate)
    found d = ((List.finRange legal.length).filter fun i =>
      ∃ j < i, (legal.get j).Alike (legal.get i)).map (fun i => .edgeDuplicate (legal.get i)) ∧
    (found d).length + (legal.map Inspection.signature).toFinset.card = legal.length ∧
    ∀ e, found { d with edges := d.edges.filter fun e' => e'.Alike e } =
      (found d).filter (·.repeatsLike e) := by
  intro legal found
  have hlegal : legal = d.legalEdges := edges_legalPart
  have hfound : ∀ d, found d = Inspection.duplicates d :=
    fun d => Inspection.filter_edgeDuplicate d p
  clear_value legal
  subst hlegal
  simp only [hfound]
  exact ⟨Inspection.duplicates_eq d, Inspection.length_duplicates d, Inspection.duplicates_alike d⟩

-- The second edge takes from its snapshot what the first one states; the third has no port.
example :
    let first : Edge :=
      { id := "1", source := "a", target := "b", sourcePort := some "x", statedFlow := some .data }
    let second : Edge :=
      { id := "2", source := "a", target := "b", snapshot := some first.toLink }
    let third : Edge := { id := "3", source := "a", target := "b", statedFlow := some .data }
    let d : Diagram :=
      { nodes := [{ id := "a", role := .operation }, { id := "b", role := .operation }]
        edges := [first, second, third] }
    Inspection.duplicates d = [.edgeDuplicate second] := by cbv

end Blueprint
