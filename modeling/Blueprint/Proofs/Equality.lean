import Mathlib.Data.Fintype.EquivFin
import Mathlib.Data.List.Nodup
import Blueprint.Value.Frozen

/-!
# Proofs: equality of values

Values are compared in one direction: each item of the first is looked for in the second. That is
symmetric all the same. The keys of a frozen map are apart, so different items of the first map have
different partners in the second, and since the maps have the same size, no item of the second is
left without one.

Agreement is an equivalence. Equality is symmetric and transitive, but an undefined number is not
equal to itself.
-/

namespace Blueprint

theorem Scalar.agrees_iff {a b : Scalar} : a.agrees b = true ↔ a.mark = b.mark := beq_iff_eq

namespace Keys

/-- The keys of a frozen map are told by their marks. -/
theorem mark_get_injective (keys : Keys) : Function.Injective fun i => (keys.get i).mark := by
  intro i j hij
  have hget : ∀ k : Fin keys.size,
      (keys.list.map Scalar.mark).get (k.cast (List.length_map ..).symm) = (keys.get k).mark := by
    intro k
    exact List.getElem_map ..
  have hcast := keys.apart.injective_get ((hget i).trans (hij.trans (hget j).symm))
  exact Fin.cast_injective _ hcast

/-- A key stands at one position at most. -/
theorem position?_eq_some {keys : Keys} {key : Scalar} {i : Fin keys.size} :
    keys.position? key = some i ↔ (keys.get i).mark = key.mark := by
  unfold position?
  rw [List.findFinIdx?_eq_some_iff]
  constructor
  · rintro ⟨hkey, -⟩
    exact Scalar.agrees_iff.mp hkey
  · intro hkey
    refine ⟨Scalar.agrees_iff.mpr hkey, fun j hj hagrees => ?_⟩
    have hmark : (keys.get j).mark = (keys.get i).mark :=
      (Scalar.agrees_iff.mp hagrees).trans hkey.symm
    exact absurd (keys.mark_get_injective hmark) (Fin.ne_of_lt hj)

end Keys

namespace Frozen

/-! ## Agreement -/

/-- Lists agree item by item. -/
theorem agrees_list {m n : Nat} {xs : Fin m → Frozen} {ys : Fin n → Frozen} :
    (list m xs).agrees (list n ys) = true ↔
      ∃ h : m = n, ∀ i, (xs i).agrees (ys (i.cast h)) = true := by
  rw [agrees]
  split
  · next h => simp [h]
  · next h => simp [h]

/-- The item under each key agrees with the one under the same key of the other map. -/
theorem agrees_map {ks ls : Keys} {xs : Fin ks.size → Frozen} {ys : Fin ls.size → Frozen} :
    (map ks xs).agrees (map ls ys) = true ↔ ks.size = ls.size ∧
      ∀ i, ∃ j, (ls.get j).mark = (ks.get i).mark ∧ (xs i).agrees (ys j) = true := by
  rw [agrees, Bool.and_eq_true, beq_iff_eq, List.all_eq_true]
  refine and_congr_right fun _ => ⟨fun h i => ?_, fun h i _ => ?_⟩
  · have hi := h i (List.mem_finRange i)
    split at hi
    · next j hj => exact ⟨j, Keys.position?_eq_some.mp hj, hi⟩
    · cases hi
  · obtain ⟨j, hj, hagrees⟩ := h i
    rw [Keys.position?_eq_some.mpr hj]
    exact hagrees

/-- Every value agrees with itself, also one that is not equal to itself. -/
theorem agrees_self (a : Frozen) : a.agrees a = true := by
  induction a with
  | scalar s => exact Scalar.agrees_iff.mpr rfl
  | list n xs ih => exact agrees_list.mpr ⟨rfl, ih⟩
  | map ks xs ih => exact agrees_map.mpr ⟨rfl, fun i => ⟨i, rfl, ih i⟩⟩

/-- If each item of a map has a partner in another map of the same size, the partners are all items
of that map, since no two items have the same one. -/
theorem agrees_symm {a b : Frozen} (h : a.agrees b = true) : b.agrees a = true := by
  induction a generalizing b with
  | scalar s =>
    cases b with
    | scalar t => exact Scalar.agrees_iff.mpr (Scalar.agrees_iff.mp h).symm
    | list | map => cases h
  | list m xs ih =>
    cases b with
    | list n ys =>
      obtain ⟨rfl, hitems⟩ := agrees_list.mp h
      exact agrees_list.mpr ⟨rfl, fun i => ih i (hitems i)⟩
    | scalar | map => cases h
  | map ks xs ih =>
    cases b with
    | map ls ys =>
      obtain ⟨hsize, hitems⟩ := agrees_map.mp h
      choose partner hkey hitem using hitems
      have hinj : Function.Injective partner := by
        intro i j hij
        apply ks.mark_get_injective
        exact (hkey i).symm.trans (hij ▸ hkey j)
      have hcard : Fintype.card (Fin ks.size) = Fintype.card (Fin ls.size) := by
        rw [Fintype.card_fin, Fintype.card_fin, hsize]
      obtain ⟨-, hsurj⟩ := (Fintype.bijective_iff_injective_and_card partner).mpr ⟨hinj, hcard⟩
      refine agrees_map.mpr ⟨hsize.symm, fun j => ?_⟩
      obtain ⟨i, rfl⟩ := hsurj j
      exact ⟨i, (hkey i).symm, ih i (hitem i)⟩
    | scalar | list => cases h

theorem agrees_trans {a b c : Frozen} (hab : a.agrees b = true) (hbc : b.agrees c = true) :
    a.agrees c = true := by
  induction a generalizing b c with
  | scalar s =>
    cases b with
    | scalar t =>
      cases c with
      | scalar u =>
        have hmark := (Scalar.agrees_iff.mp hab).trans (Scalar.agrees_iff.mp hbc)
        exact Scalar.agrees_iff.mpr hmark
      | list | map => cases hbc
    | list | map => cases hab
  | list m xs ih =>
    cases b with
    | list n ys =>
      cases c with
      | list k zs =>
        obtain ⟨rfl, hxy⟩ := agrees_list.mp hab
        obtain ⟨rfl, hyz⟩ := agrees_list.mp hbc
        exact agrees_list.mpr ⟨rfl, fun i => ih i (hxy i) (hyz i)⟩
      | scalar | map => cases hbc
    | scalar | map => cases hab
  | map ks xs ih =>
    cases b with
    | map ls ys =>
      cases c with
      | map ms zs =>
        obtain ⟨hsize, hxy⟩ := agrees_map.mp hab
        obtain ⟨hsize', hyz⟩ := agrees_map.mp hbc
        refine agrees_map.mpr ⟨hsize.trans hsize', fun i => ?_⟩
        obtain ⟨j, hj, hxj⟩ := hxy i
        obtain ⟨k, hk, hjk⟩ := hyz j
        exact ⟨k, hk.trans hj, ih i hxj hjk⟩
      | scalar | list => cases hbc
    | scalar | list => cases hab

/-! ## Equality -/

theorem isUndefined_iff {a : Frozen} :
    a.isUndefined = true ↔ ∃ made, a = .scalar (.float (.nan made)) := by
  constructor
  · intro h
    unfold isUndefined at h
    split at h
    · next made => exact ⟨made, rfl⟩
    · cases h
  · rintro ⟨made, rfl⟩
    rfl

/-- What agrees with an undefined number is that undefined number. -/
theorem isUndefined_of_agrees {a b : Frozen} (h : a.agrees b = true) (ha : a.isUndefined = true) :
    b.isUndefined = true := by
  obtain ⟨made, rfl⟩ := isUndefined_iff.mp ha
  cases b with
  | scalar t =>
    have hmark : Mark.undefined made = t.mark := Scalar.agrees_iff.mp h
    cases t with
    | float x =>
      cases x with
      | nan => rfl
      | infinite | finite => cases hmark
    | null | bool | int | str => cases hmark
  | list | map => cases h

theorem equals_iff {a b : Frozen} :
    a.equals b = true ↔ a.isUndefined = false ∧ a.agrees b = true := by
  unfold equals
  rw [Bool.and_eq_true, Bool.not_eq_true']

end Frozen

namespace Value

/-- A value is equal to itself unless it is an undefined number. One that only holds undefined
numbers somewhere is. -/
theorem same_self_iff {v : Value} : v.same v = true ↔ v.freeze.isUndefined = false := by
  unfold same
  rw [Frozen.equals_iff, and_iff_left (Frozen.agrees_self v.freeze)]

/-- Equality is symmetric, though it is decided in one direction. -/
theorem same_symm {a b : Value} (h : a.same b = true) : b.same a = true := by
  obtain ⟨hdefined, hagrees⟩ := Frozen.equals_iff.mp h
  refine Frozen.equals_iff.mpr ⟨?_, Frozen.agrees_symm hagrees⟩
  rw [Bool.eq_false_iff] at hdefined ⊢
  exact fun hb => hdefined (Frozen.isUndefined_of_agrees (Frozen.agrees_symm hagrees) hb)

theorem same_trans {a b c : Value} (hab : a.same b = true) (hbc : b.same c = true) :
    a.same c = true := by
  obtain ⟨hdefined, hagrees⟩ := Frozen.equals_iff.mp hab
  obtain ⟨-, hagrees'⟩ := Frozen.equals_iff.mp hbc
  exact Frozen.equals_iff.mpr ⟨hdefined, Frozen.agrees_trans hagrees hagrees'⟩

end Value

end Blueprint
