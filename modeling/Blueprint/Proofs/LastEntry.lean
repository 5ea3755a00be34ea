import Mathlib.Data.List.Induction
import Mathlib.Data.List.Nodup

/-!
# Proofs: the last entry under a key

Tables are filled entry by entry, and an entry takes the place of an earlier one under the same key
(`putBy`). So what is in a table at the end are the entries that no later one has replaced
(`mem_tableOf`).
-/

namespace Blueprint

variable {α κ : Type} {key : α → κ} {xs : List α} {x y : α}

/-- No entry behind `x` in the list has its key. -/
def IsLast (key : α → κ) (xs : List α) (x : α) : Prop :=
  ∃ before after, xs = before ++ x :: after ∧ ∀ y ∈ after, key y ≠ key x

theorem not_isLast_nil : ¬ IsLast key [] x := by
  rintro ⟨before, after, h, -⟩
  simp at h

/-- One more entry replaces those under its key. -/
theorem isLast_concat : IsLast key (xs ++ [y]) x ↔ x = y ∨ IsLast key xs x ∧ key x ≠ key y := by
  constructor
  · rintro ⟨before, after, h, hafter⟩
    rcases List.eq_nil_or_concat after with rfl | ⟨after, z, rfl⟩
    · have hlast : [y] = [x] := List.append_inj_right' h rfl
      exact Or.inl (List.singleton_inj.mp hlast).symm
    · rw [List.concat_eq_append, ← List.cons_append, ← List.append_assoc] at h
      obtain rfl : y = z := List.singleton_inj.mp (List.append_inj_right' h rfl)
      obtain rfl : xs = before ++ x :: after := List.append_inj_left' h rfl
      rw [List.concat_eq_append, List.forall_mem_append] at hafter
      refine Or.inr ⟨⟨before, after, rfl, hafter.1⟩, ?_⟩
      exact (hafter.2 y (List.mem_singleton_self y)).symm
  · rintro (rfl | ⟨⟨before, after, rfl, hafter⟩, hne⟩)
    · exact ⟨xs, [], rfl, by simp⟩
    · refine ⟨before, after ++ [y], by rw [List.append_assoc, List.cons_append], ?_⟩
      rw [List.forall_mem_append, List.forall_mem_singleton]
      exact ⟨hafter, hne.symm⟩

theorem IsLast.mem (h : IsLast key xs x) : x ∈ xs := by
  obtain ⟨before, after, rfl, -⟩ := h
  exact List.mem_append_cons_self

/-- Of the entries that a list gives rise to, one is the last under its key if nothing behind its
origin gives rise to another one. -/
theorem isLast_filterMap {β : Type} {f : β → Option α} {ws : List β} :
    IsLast key (ws.filterMap f) x ↔ ∃ before w after, ws = before ++ w :: after ∧ f w = some x ∧
      ∀ z ∈ after, ∀ y, f z = some y → key y ≠ key x := by
  constructor
  · rintro ⟨_, _, h, hafter⟩
    obtain ⟨before, rest, rfl, -, hrest⟩ := List.filterMap_eq_append_iff.mp h
    obtain ⟨skipped, w, after, rfl, -, hw, rfl⟩ := List.filterMap_eq_cons_iff.mp hrest
    refine ⟨before ++ skipped, w, after, (List.append_assoc ..).symm, hw, fun z hz y hy => ?_⟩
    exact hafter y (List.mem_filterMap.mpr ⟨z, hz, hy⟩)
  · rintro ⟨before, w, after, rfl, hw, hafter⟩
    refine ⟨before.filterMap f, after.filterMap f, ?_, fun y hy => ?_⟩
    · rw [List.filterMap_append, List.filterMap_cons_some hw]
    · obtain ⟨z, hz, hzy⟩ := List.mem_filterMap.mp hy
      exact hafter z hz y hzy

theorem isLast_map {β : Type} {f : β → α} {ws : List β} :
    IsLast key (ws.map f) x ↔ ∃ w, f w = x ∧ IsLast (fun w => key (f w)) ws w := by
  rw [← List.filterMap_eq_map, isLast_filterMap]
  constructor
  · rintro ⟨before, w, after, rfl, hw, hafter⟩
    obtain rfl := Option.some.inj hw
    exact ⟨w, rfl, before, after, rfl, fun z hz => hafter z hz _ rfl⟩
  · rintro ⟨w, rfl, before, after, rfl, hafter⟩
    refine ⟨before, w, after, rfl, rfl, fun z hz y hy => ?_⟩
    obtain rfl := Option.some.inj hy
    exact hafter z hz

variable [DecidableEq κ]

/-- Every key that occurs has a last entry. -/
theorem exists_isLast (h : x ∈ xs) : ∃ y, IsLast key xs y ∧ key y = key x := by
  induction xs using List.reverseRecOn with
  | nil => simp at h
  | append_singleton xs y ih =>
    by_cases hkey : key x = key y
    · exact ⟨y, isLast_concat.mpr (Or.inl rfl), hkey.symm⟩
    · have hx : x ∈ xs := by
        rcases List.mem_append.mp h with hx | hx
        · exact hx
        · exact absurd (congrArg key (List.mem_singleton.mp hx)) hkey
      obtain ⟨z, hz, hzkey⟩ := ih hx
      exact ⟨z, isLast_concat.mpr (Or.inr ⟨hz, hzkey ▸ hkey⟩), hzkey⟩

/-! ## Tables -/

/-- Puts an entry in the place of the one under its key, or at the end. -/
def putBy (key : α → κ) (x : α) : List α → List α
  | [] => [x]
  | y :: rest => if key y = key x then x :: rest else y :: putBy key x rest

theorem mem_putBy (hnodup : (xs.map key).Nodup) :
    x ∈ putBy key y xs ↔ x = y ∨ x ∈ xs ∧ key x ≠ key y := by
  induction xs with
  | nil => simp [putBy]
  | cons z xs ih =>
    obtain ⟨hnew, hrest⟩ := List.nodup_cons.mp hnodup
    by_cases hkey : key z = key y
    · have hother : x ∈ xs → key x ≠ key y := by
        intro hx e
        exact hnew (List.mem_map.mpr ⟨x, hx, e.trans hkey.symm⟩)
      rw [putBy, if_pos hkey, List.mem_cons, List.mem_cons]
      constructor
      · rintro (rfl | hx)
        · exact Or.inl rfl
        · exact Or.inr ⟨Or.inr hx, hother hx⟩
      · rintro (rfl | ⟨rfl | hx, hne⟩)
        · exact Or.inl rfl
        · exact absurd hkey hne
        · exact Or.inr hx
    · rw [putBy, if_neg hkey, List.mem_cons, List.mem_cons, ih hrest]
      constructor
      · rintro (rfl | rfl | ⟨hx, hne⟩)
        · exact Or.inr ⟨Or.inl rfl, hkey⟩
        · exact Or.inl rfl
        · exact Or.inr ⟨Or.inr hx, hne⟩
      · rintro (rfl | ⟨rfl | hx, hne⟩)
        · exact Or.inr (Or.inl rfl)
        · exact Or.inl rfl
        · exact Or.inr (Or.inr ⟨hx, hne⟩)

theorem nodup_putBy (hnodup : (xs.map key).Nodup) : ((putBy key y xs).map key).Nodup := by
  induction xs with
  | nil => simp [putBy]
  | cons z xs ih =>
    obtain ⟨hnew, hrest⟩ := List.nodup_cons.mp hnodup
    by_cases hkey : key z = key y
    · rw [putBy, if_pos hkey, List.map_cons, ← hkey]
      exact hnodup
    · rw [putBy, if_neg hkey, List.map_cons, List.nodup_cons]
      refine ⟨fun hmem => ?_, ih hrest⟩
      obtain ⟨x, hx, hxkey⟩ := List.mem_map.mp hmem
      rcases (mem_putBy hrest).mp hx with rfl | ⟨hx, -⟩
      · exact hkey hxkey.symm
      · exact hnew (List.mem_map.mpr ⟨x, hx, hxkey⟩)

/-- The table that is filled with entries one after the other. -/
def tableOf (key : α → κ) (xs : List α) : List α :=
  xs.foldl (fun known x => putBy key x known) []

theorem tableOf_concat : tableOf key (xs ++ [x]) = putBy key x (tableOf key xs) := by
  rw [tableOf, List.foldl_append]
  rfl

theorem nodup_tableOf : ((tableOf key xs).map key).Nodup := by
  induction xs using List.reverseRecOn with
  | nil => exact List.nodup_nil
  | append_singleton xs y ih =>
    rw [tableOf_concat]
    exact nodup_putBy ih

theorem mem_tableOf : x ∈ tableOf key xs ↔ IsLast key xs x := by
  induction xs using List.reverseRecOn with
  | nil => exact iff_of_false List.not_mem_nil not_isLast_nil
  | append_singleton xs y ih => rw [tableOf_concat, mem_putBy nodup_tableOf, isLast_concat, ih]

end Blueprint
