import Blueprint.Proofs.Inspection
import Blueprint.Proofs.Reordered

/-!
# Proofs: the order of declaration and the inspection

The issues of a diagram name positions, list nodes and show cycles as the order of declaration has
them. Which rules are broken, and how often each, does not depend on that order. Every rule is
looked at by itself: what it finds is reduced to the rules broken, and these are compared.
-/

namespace Blueprint

open Relation

/-- The rules that issues break, with repetitions. -/
def rulesOf (found : List Issue) : List Rule := found.map (·.rule)

@[simp]
theorem rulesOf_append (xs ys : List Issue) : rulesOf (xs ++ ys) = rulesOf xs ++ rulesOf ys :=
  List.map_append

theorem rulesOf_flatMap {α : Type} (xs : List α) (f : α → List Issue) :
    rulesOf (xs.flatMap f) = xs.flatMap fun x => rulesOf (f x) :=
  List.map_flatMap

/-- Of the members that share a key all but one are repeated, and all of them if the key was seen
before. -/
theorem length_repeated {α β : Type} [DecidableEq β] (key : α → β) (seen : List β) (xs : List α) :
    (repeated key seen xs).length + ((xs.map key).toFinset \ seen.toFinset).card = xs.length := by
  induction xs generalizing seen with
  | nil => simp [repeated]
  | cons x xs ih =>
    rw [repeated, List.map_cons, List.toFinset_cons, List.length_cons]
    by_cases hx : key x ∈ seen
    · have hsame : insert (key x) (xs.map key).toFinset \ seen.toFinset =
          (xs.map key).toFinset \ seen.toFinset :=
        Finset.insert_sdiff_of_mem _ (List.mem_toFinset.mpr hx)
      rw [if_pos hx, hsame, List.length_cons, ← ih seen]
      omega
    · have hmore : (insert (key x) (xs.map key).toFinset \ seen.toFinset).card =
          ((xs.map key).toFinset \ (key x :: seen).toFinset).card + 1 := by
        rw [Finset.insert_sdiff_of_notMem _ (fun h => hx (List.mem_toFinset.mp h)),
          List.toFinset_cons, Finset.sdiff_insert, ← Finset.erase_insert_eq_erase,
          Finset.card_erase_add_one (Finset.mem_insert_self ..)]
      rw [if_neg hx, hmore, ← ih (key x :: seen)]
      omega

/-! ## Legal edges -/

namespace Diagram.Reordered

variable {d d' : Diagram}

theorem legalEdges (h : d.Reordered d') : d.legalEdges.Perm d'.legalEdges := by
  have hlegal : d.isLegal = d'.isLegal := by
    funext e
    unfold isLegal hasNode
    rw [h.node?_eq]
  unfold Diagram.legalEdges
  rw [hlegal]
  exact h.edges.filter _

theorem legalControl (h : d.Reordered d') : d.legalControl.Perm d'.legalControl :=
  h.legalEdges.filter _

theorem step_legalControl (h : d.Reordered d') :
    (controlLinks d.legalControl).Step = (controlLinks d'.legalControl).Step := by
  rw [step_controlLinks, step_controlLinks]
  exact controlStep_congr fun _ => h.legalControl.mem_iff

theorem soleEntry?_eq (h : d.Reordered d') : d.soleEntry? = d'.soleEntry? := by
  unfold soleEntry?
  rcases perm_cases (h.nodesOf .entry) with ⟨hl, hl'⟩ | ⟨_, hl, hl'⟩ | ⟨_, _, _, _, _, _, hl, hl'⟩
  · rw [hl, hl']
  · rw [hl, hl']
  · rw [hl, hl']

end Diagram.Reordered

/-! ## The rules -/

namespace Inspection

variable {d d' : Diagram} {p : Palette}

theorem rules_entryCount (h : d.Reordered d') :
    rulesOf (entryCount d) = rulesOf (entryCount d') := by
  unfold entryCount
  rcases perm_cases (h.nodesOf .entry) with ⟨hl, hl'⟩ | ⟨_, hl, hl'⟩ | ⟨_, _, _, _, _, _, hl, hl'⟩
  · rw [hl, hl']
  · rw [hl, hl']
  · rw [hl, hl']
    rfl

theorem rules_exitCount (h : d.Reordered d') :
    rulesOf (exitCount d) = rulesOf (exitCount d') := by
  unfold exitCount
  rw [(h.nodesOf .exit).isEmpty_eq]

/-- The position of an edge shows in the text of an issue only. -/
theorem rules_edge (position : Nat) (e : Edge) :
    rulesOf (edge d position e) = rulesOf (edge d 1 e) := by
  unfold edge
  split <;> rfl

theorem rules_everyEdge_eq (d : Diagram) :
    rulesOf (everyEdge d) = d.edges.flatMap fun e => rulesOf (edge d 1 e) := by
  unfold everyEdge
  rw [rulesOf_flatMap]
  calc (d.edges.zipIdx 1).flatMap (fun x => rulesOf (edge d x.2 x.1))
      = (d.edges.zipIdx 1).flatMap (fun x => rulesOf (edge d 1 x.1)) := by
        simp only [rules_edge]
    _ = ((d.edges.zipIdx 1).map Prod.fst).flatMap fun e => rulesOf (edge d 1 e) := by
        rw [List.flatMap_map]
    _ = d.edges.flatMap fun e => rulesOf (edge d 1 e) := by
        rw [List.zipIdx_map_fst]

theorem rules_everyEdge (h : d.Reordered d') :
    (rulesOf (everyEdge d)).Perm (rulesOf (everyEdge d')) := by
  have hedge : edge d 1 = edge d' 1 := by
    funext e
    unfold edge
    rw [h.node?_eq]
  rw [rules_everyEdge_eq, rules_everyEdge_eq, hedge]
  exact h.edges.flatMap_right _

theorem rules_controlPresent (h : d.Reordered d') :
    rulesOf (controlPresent d) = rulesOf (controlPresent d') := by
  unfold controlPresent
  rw [h.nodes.length_eq, h.legalControl.isEmpty_eq]

theorem length_duplicates (d : Diagram) :
    (duplicates d).length + (d.legalEdges.map signature).toFinset.card = d.legalEdges.length := by
  have hlength := length_repeated signature [] d.legalEdges
  rw [List.toFinset_nil, Finset.sdiff_empty] at hlength
  rw [duplicates, List.length_map]
  exact hlength

/-- Which edges repeat others depends on the order, how many of them do does not. -/
theorem rules_duplicates (h : d.Reordered d') :
    rulesOf (duplicates d) = rulesOf (duplicates d') := by
  have hrules : ∀ d,
      rulesOf (duplicates d) = List.replicate (duplicates d).length .edgeDuplicate := by
    intro d
    unfold duplicates rulesOf
    rw [List.map_map, List.length_map]
    exact List.map_const'
  have hkeys : (d.legalEdges.map signature).toFinset = (d'.legalEdges.map signature).toFinset :=
    List.toFinset_eq_of_perm _ _ (h.legalEdges.map signature)
  have hlength := length_duplicates d
  have hlength' := length_duplicates d'
  rw [hkeys, h.legalEdges.length_eq] at hlength
  rw [hrules, hrules]
  congr 1
  omega

theorem rules_entryEdges (h : d.Reordered d') :
    rulesOf (entryEdges d) = rulesOf (entryEdges d') := by
  unfold entryEdges
  rw [h.soleEntry?_eq]
  cases d'.soleEntry? with
  | none => rfl
  | some entry => simp only [h.legalControl.any_eq]

theorem rules_exitEdges (h : d.Reordered d') :
    (rulesOf (exitEdges d)).Perm (rulesOf (exitEdges d')) := by
  unfold exitEdges
  simp only [h.legalControl.any_eq]
  exact ((h.nodesOf .exit).flatMap_right _).map _

theorem unreached_perm (h : d.Reordered d') (entry : Node) :
    (unreached d p entry).Perm (unreached d' p entry) := by
  have hreached : ∀ id, ((controlLinks d.legalControl).reach [entry.id]).contains id =
      ((controlLinks d'.legalControl).reach [entry.id]).contains id := by
    intro id
    rw [Bool.eq_iff_iff, List.contains_iff_mem, List.contains_iff_mem, Links.mem_reach_iff,
      Links.mem_reach_iff, h.step_legalControl]
  unfold unreached
  simp only [hreached]
  exact h.nodes.filter _

theorem rules_reachability (h : d.Reordered d') :
    rulesOf (reachability d p) = rulesOf (reachability d' p) := by
  unfold reachability
  rw [h.soleEntry?_eq]
  cases d'.soleEntry? with
  | none => rfl
  | some entry =>
    have hperm := unreached_perm (p := p) h entry
    simp only [h.legalControl.isEmpty_eq]
    split
    · rfl
    · match hl : unreached d p entry, hl' : unreached d' p entry with
      | [], [] => rfl
      | _ :: _, _ :: _ => rfl
      | [], _ :: _ => simp [hl, hl'] at hperm
      | _ :: _, [] => simp [hl, hl'] at hperm

/-- The search may come to another cycle, but not to none. -/
theorem rules_cycles (h : d.Reordered d') : rulesOf (cycles d) = rulesOf (cycles d') := by
  have hnone : (controlLinks d.legalControl).loop? d.ids = none ↔
      (controlLinks d'.legalControl).loop? d'.ids = none := by
    rw [Links.loop?_eq_none_iff, Links.loop?_eq_none_iff, h.step_legalControl]
    simp only [h.ids.mem_iff]
  unfold cycles
  cases hl : (controlLinks d.legalControl).loop? d.ids with
  | none => rw [hnone.mp hl]
  | some walk =>
    cases hl' : (controlLinks d'.legalControl).loop? d'.ids with
    | none => rw [hnone.mpr hl'] at hl; cases hl
    | some walk' => rfl

theorem rules_variableLinks (h : d.Reordered d') :
    (rulesOf (variableLinks d p)).Perm (rulesOf (variableLinks d' p)) := by
  have hunusual : isUnusualLink d p = isUnusualLink d' p := by
    funext e
    unfold isUnusualLink
    rw [h.node?_eq]
  unfold variableLinks
  rw [hunusual]
  exact (((h.legalEdges.filter _).filter _).map _).map _

/-- The same rules are broken in any order, each as often. -/
theorem rules_issues (h : d.Reordered d') :
    (rulesOf (d.issues p)).Perm (rulesOf (d'.issues p)) := by
  unfold Diagram.issues
  rw [h.nodes.isEmpty_eq]
  split
  · rfl
  · simp only [rulesOf_append, rules_entryCount h, rules_exitCount h, rules_controlPresent h,
      rules_duplicates h, rules_entryEdges h, rules_reachability h, rules_cycles h]
    -- the rules that look at edges or nodes one by one find their issues in another order
    refine .append (.append_right _ (.append_right _ (.append ?_ (rules_exitEdges h))))
      (rules_variableLinks h)
    refine .append_right _ (.append_right _ (.append_right _ ?_))
    exact .append_left _ (rules_everyEdge h)

end Inspection

/-! ## Reports -/

namespace Report

variable {r r' : Report}

theorem length_messages (r : Report) (severity : Severity) :
    (r.messages severity).length = (rulesOf r.issues).countP (·.severity = severity) := by
  unfold messages rulesOf
  rw [List.length_map, List.countP_map, List.countP_eq_length_filter]
  rfl

theorem ok_eq (r : Report) : r.ok = decide (r.errors.length = 0) := by
  unfold ok
  rw [Bool.eq_iff_iff]
  simp

theorem length_messages_eq (h : (rulesOf r.issues).Perm (rulesOf r'.issues)) (severity : Severity) :
    (r.messages severity).length = (r'.messages severity).length := by
  rw [length_messages, length_messages, h.countP_eq]

end Report

/-- **Validity does not depend on the order of declaration.** If node names are distinct, a diagram
and the same diagram in another order pass or fail together, with as many errors and warnings and
the same codes, each as often. -/
theorem Diagram.inspect_of_perm (p : Palette) (d d' : Diagram) (hids : d.ids.Nodup)
    (hnodes : d.nodes.Perm d'.nodes) (hedges : d.edges.Perm d'.edges) :
    (d.inspect p).ok = (d'.inspect p).ok ∧ (d.inspect p).summary = (d'.inspect p).summary ∧
      (d.inspect p).codes.Perm (d'.inspect p).codes := by
  have hrules : (rulesOf (d.issues p)).Perm (rulesOf (d'.issues p)) :=
    Inspection.rules_issues ⟨hids, hnodes, hedges⟩
  have herrors : (d.inspect p).errors.length = (d'.inspect p).errors.length :=
    Report.length_messages_eq hrules .error
  have hwarnings : (d.inspect p).warnings.length = (d'.inspect p).warnings.length :=
    Report.length_messages_eq hrules .warning
  refine ⟨?_, ?_, ?_⟩
  · rw [Report.ok_eq, Report.ok_eq, herrors]
  · unfold Report.summary
    rw [herrors, hwarnings]
  · have hcodes := hrules.map Rule.code
    unfold rulesOf at hcodes
    rw [List.map_map, List.map_map] at hcodes
    exact hcodes

/-- Declared backwards, a diagram with a cycle and an edge that stands twice shows its cycle from
the other end and finds the other edge repeated. -/
theorem Diagram.inspect_backwards :
    let d : Diagram :=
      { nodes := [{ id := "s", role := .entry }, { id := "a", role := .operation },
          { id := "b", role := .operation }, { id := "x", role := .exit }]
        edges := [{ id := "1", source := "s", target := "a" },
          { id := "2", source := "a", target := "b" }, { id := "3", source := "b", target := "a" },
          { id := "4", source := "b", target := "x" },
          { id := "5", source := "s", target := "a" }] }
    let d' : Diagram := ⟨d.nodes.reverse, d.edges.reverse⟩
    (d.ids.Nodup ∧ d.nodes.Perm d'.nodes ∧ d.edges.Perm d'.edges) ∧
      (d.issues .empty).map (·.edges) = [["5"], []] ∧
      (d'.issues .empty).map (·.edges) = [["1"], []] ∧
      (d.issues .empty).map (·.nodes) = [[], ["a", "b", "a"]] ∧
      (d'.issues .empty).map (·.nodes) = [[], ["b", "a", "b"]] ∧
      (d'.inspect .empty).ok = false ∧
      (d'.inspect .empty).codes.Perm ["EDGE_DUPLICATE", "CONTROL_CYCLE"] := by
  intro d d'
  have hids : d.ids.Nodup := by simp [d, ids]
  have hnodes : d.nodes.Perm d'.nodes := (List.reverse_perm _).symm
  have hedges : d.edges.Perm d'.edges := (List.reverse_perm _).symm
  obtain ⟨hok, -, hcodes⟩ := inspect_of_perm .empty d d' hids hnodes hedges
  have hrules : rulesOf (d.issues .empty) = [.edgeDuplicate, .controlCycle] := by cbv
  have hfailed : (d.inspect .empty).ok = false := by
    have hcount : (d.inspect .empty).errors.length = 1 := by
      refine (Report.length_messages _ .error).trans ?_
      show (rulesOf (d.issues .empty)).countP _ = 1
      rw [hrules]
      rfl
    rw [Report.ok_eq, hcount]
    rfl
  have hfound : (d.inspect .empty).codes = ["EDGE_DUPLICATE", "CONTROL_CYCLE"] := by cbv
  refine ⟨⟨hids, hnodes, hedges⟩, by cbv, by cbv, by cbv, by cbv, hok ▸ hfailed, ?_⟩
  rw [← hfound]
  exact hcodes.symm

end Blueprint
