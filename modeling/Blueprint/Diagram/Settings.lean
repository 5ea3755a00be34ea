import Blueprint.Value.Basic

/-!
# Settings

A node's settings: named values in the order they were first set, each name once.
-/

namespace Blueprint

/-- Named values, each name once. -/
structure Settings where
  /-- The names with their values, in the order they were first set. -/
  entries : List (String × Value)
  /-- No name occurs twice. -/
  nodup : (entries.map (·.1)).Nodup

namespace Settings

/-- Without names there is none that occurs twice. -/
theorem nodup_names_nil : (([] : List (String × Value)).map (·.1)).Nodup := List.Pairwise.nil

/-- No settings. -/
def empty : Settings := ⟨[], nodup_names_nil⟩

/-- The value of a name. -/
def get? (s : Settings) (name : String) : Option Value :=
  s.entries.lookup name

/-- Replaces the value of a name in a list of named values, or adds the name at the end. -/
def putEntry (name : String) (value : Value) : List (String × Value) → List (String × Value)
  | [] => [(name, value)]
  | (n, v) :: rest => if n = name then (n, value) :: rest else (n, v) :: putEntry name value rest

/-- Setting a name changes the list of names only by adding that name at the end. -/
theorem map_fst_putEntry (name : String) (value : Value) (entries : List (String × Value)) :
    (putEntry name value entries).map (·.1) =
      if name ∈ entries.map (·.1) then entries.map (·.1) else entries.map (·.1) ++ [name] := by
  induction entries with
  | nil => simp [putEntry]
  | cons entry rest ih =>
    obtain ⟨n, v⟩ := entry
    by_cases h : n = name
    · simp [putEntry, h]
    · have h' : ¬ name = n := fun e => h e.symm
      by_cases hm : name ∈ rest.map (·.1)
      · rw [if_pos hm] at ih
        rw [if_pos (by simp only [List.map_cons, List.mem_cons]; exact Or.inr hm)]
        simp [putEntry, h, ih]
      · rw [if_neg hm] at ih
        rw [if_neg (by simp only [List.map_cons, List.mem_cons, not_or]; exact ⟨h', hm⟩)]
        simp [putEntry, h, ih]

/-- Setting a name keeps names apart. -/
theorem nodup_putEntry {entries : List (String × Value)} (name : String) (value : Value)
    (h : (entries.map (·.1)).Nodup) : ((putEntry name value entries).map (·.1)).Nodup := by
  rw [map_fst_putEntry]
  split
  · exact h
  · rename_i hm
    rw [List.nodup_append]
    refine ⟨h, by simp, ?_⟩
    intro a ha b hb e
    rw [List.mem_singleton] at hb
    exact hm (by rw [← hb, ← e]; exact ha)

/-- Sets the value of a name. A name that is there keeps its place. -/
def put (s : Settings) (name : String) (value : Value) : Settings :=
  ⟨putEntry name value s.entries, nodup_putEntry name value s.nodup⟩

/-- Settings from named values; of several values for a name the last one counts. -/
def ofList (entries : List (String × Value)) : Settings :=
  entries.foldl (fun s entry => s.put entry.1 entry.2) empty

end Settings

end Blueprint
