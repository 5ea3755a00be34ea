import Blueprint.Value.Basic

/-!
# Equality of values

Values are compared in a frozen form: the items of a list are found by their position and those of
a map by their key, and no two keys of a frozen map are one. Numbers and truth values go by their
exact numeric value, lists item by item, maps by their keys and what those hold.

An undefined number is equal to nothing, itself included. Inside of lists and maps, however, what is
one and the same need not be equal to itself: there an undefined number agrees with itself.
-/

namespace Blueprint

/-- The keys of a frozen map. -/
structure Keys where
  /-- The keys, in order. -/
  list : List Scalar
  /-- No two of them are one key. -/
  apart : (list.map Scalar.mark).Nodup

namespace Keys

/-- How many keys there are. -/
abbrev size (keys : Keys) : Nat := keys.list.length

/-- The key at a position. -/
def get (keys : Keys) (i : Fin keys.size) : Scalar := keys.list.get i

/-- The position of a key. -/
def position? (keys : Keys) (key : Scalar) : Option (Fin keys.size) :=
  keys.list.findFinIdx? (·.agrees key)

end Keys

/-- A value in the form in which it is compared. -/
inductive Frozen where
  /-- A value without parts. -/
  | scalar (s : Scalar)
  /-- A list, by its items at each position. -/
  | list (size : Nat) (item : Fin size → Frozen)
  /-- A map, by its items at the position of each key. -/
  | map (keys : Keys) (item : Fin keys.size → Frozen)

namespace Frozen

/-- Whether a value agrees with another: they are equal, or one and the same. Each item of a list is
looked for at its position in the other list, and each item of a map under its key in the other
map. -/
def agrees : Frozen → Frozen → Bool
  | .scalar a, .scalar b => a.agrees b
  | .list m xs, .list n ys =>
    if h : m = n then (List.finRange m).all fun i => (xs i).agrees (ys (i.cast h)) else false
  | .map ks xs, .map ls ys =>
    ks.size == ls.size && (List.finRange ks.size).all fun i =>
      match ls.position? (ks.get i) with
      | some j => (xs i).agrees (ys j)
      | none => false
  | _, _ => false

/-- Whether a value is an undefined number. -/
def isUndefined : Frozen → Bool
  | .scalar (.float (.nan _)) => true
  | _ => false

/-- Whether a value is equal to another. -/
def equals (a b : Frozen) : Bool := !a.isUndefined && a.agrees b

/-- The frozen list with the given items. -/
def ofList (items : List Frozen) : Frozen := .list items.length items.get

/-- Of the entries under one key, the last one. -/
def latest : List (Scalar × Frozen) → List (Scalar × Frozen)
  | [] => []
  | entry :: rest =>
    if rest.any (·.1.agrees entry.1) then latest rest else entry :: latest rest

theorem mem_of_mem_latest {entries : List (Scalar × Frozen)} {entry : Scalar × Frozen}
    (h : entry ∈ latest entries) : entry ∈ entries := by
  induction entries with
  | nil => exact h
  | cons first rest ih =>
    unfold latest at h
    split at h
    · exact List.mem_cons_of_mem _ (ih h)
    · rcases List.mem_cons.mp h with rfl | h
      · exact List.mem_cons_self ..
      · exact List.mem_cons_of_mem _ (ih h)

theorem nodup_marks_latest (entries : List (Scalar × Frozen)) :
    (((latest entries).map (·.1)).map Scalar.mark).Nodup := by
  induction entries with
  | nil => exact List.nodup_nil
  | cons first rest ih =>
    unfold latest
    split
    · exact ih
    · next hlast =>
      rw [List.map_cons, List.map_cons, List.nodup_cons]
      refine ⟨fun hmem => hlast ?_, ih⟩
      obtain ⟨key, hkey, hmark⟩ := List.mem_map.mp hmem
      obtain ⟨entry, hentry, rfl⟩ := List.mem_map.mp hkey
      exact List.any_eq_true.mpr ⟨entry, mem_of_mem_latest hentry, beq_iff_eq.mpr hmark⟩

/-- The frozen map with the given entries, of which the last one under a key counts. -/
def ofEntries (entries : List (Scalar × Frozen)) : Frozen :=
  let kept := latest entries
  .map ⟨kept.map (·.1), nodup_marks_latest entries⟩
    fun i => (kept.get (i.cast (List.length_map ..))).2

end Frozen

namespace Value

mutual

/-- The frozen form of a value. -/
def freeze : Value → Frozen
  | .scalar s => .scalar s
  | .list items => .ofList (freezeAll items)
  | .map entries => .ofEntries (freezeEntries entries)

/-- The frozen forms of the items of a list. -/
def freezeAll : List Value → List Frozen
  | [] => []
  | v :: vs => v.freeze :: freezeAll vs

/-- The entries of a map with their values in frozen form. -/
def freezeEntries : List (Scalar × Value) → List (Scalar × Frozen)
  | [] => []
  | (k, v) :: rest => (k, v.freeze) :: freezeEntries rest

end

/-- Whether two values are equal. -/
def same (a b : Value) : Bool := a.freeze.equals b.freeze

end Value

end Blueprint
