import Blueprint.Proofs.LastEntry
import Blueprint.Proofs.SnakeCase
import Blueprint.Proofs.Writing

/-!
# Proofs: the names of settings

Settings are read from a map whose keys may be of any sort and spelled in any way. The normal forms
of the keys are the names of the settings; where several keys have one normal form, the last one
gives the value. Names are in normal form already, so settings that were read are read again as they
are.
-/

namespace Blueprint

/-- The name of the setting under a key. -/
def Scalar.settingName (key : Scalar) : String := Text.snakeCase key.plain

namespace Settings

theorem putEntry_eq_putBy (name : String) (value : Value) (entries : List (String × Value)) :
    putEntry name value entries = putBy (·.1) (name, value) entries := by
  induction entries with
  | nil => rfl
  | cons entry entries ih =>
    obtain ⟨n, v⟩ := entry
    by_cases h : n = name
    · simp [putEntry, putBy, h]
    · simp [putEntry, putBy, h, ih]

theorem entries_ofList (entries : List (String × Value)) :
    (ofList entries).entries = tableOf (·.1) entries := by
  induction entries using List.reverseRecOn with
  | nil => rfl
  | append_singleton entries entry ih =>
    have hput : ofList (entries ++ [entry]) = (ofList entries).put entry.1 entry.2 := by
      rw [ofList, List.foldl_append]
      rfl
    rw [hput, tableOf_concat, ← ih]
    exact putEntry_eq_putBy entry.1 entry.2 _

theorem get?_eq_some_iff {s : Settings} {name : String} {v : Value} :
    s.get? name = some v ↔ (name, v) ∈ s.entries := by
  unfold get?
  rw [List.lookup_eq_some_iff]
  constructor
  · rintro ⟨before, after, hentries, -⟩
    rw [hentries]
    exact List.mem_append_cons_self
  · intro hmem
    obtain ⟨before, after, hentries⟩ := List.append_of_mem hmem
    refine ⟨before, after, hentries, fun entry hentry => bne_iff_ne.mpr fun e => ?_⟩
    have hnodup := s.nodup
    rw [hentries, List.map_append, List.nodup_append] at hnodup
    have hname : name ∈ before.map (·.1) := List.mem_map.mpr ⟨entry, hentry, e.symm⟩
    exact hnodup.2.2 name hname name (List.mem_cons_self ..) rfl

end Settings

namespace Document

variable {fields : Fields}

theorem mem_settingsOfFields {name : String} {v : Value} :
    (name, v) ∈ (settingsOfFields fields).entries ↔
      ∃ key, key.settingName = name ∧ IsLast (·.1.settingName) fields (key, v) := by
  unfold settingsOfFields
  rw [Settings.entries_ofList, mem_tableOf, isLast_map]
  constructor
  · rintro ⟨⟨key, w⟩, heq, hlast⟩
    obtain ⟨hname, rfl⟩ := Prod.mk.inj heq
    exact ⟨key, hname, hlast⟩
  · rintro ⟨key, rfl, hlast⟩
    exact ⟨(key, v), rfl, hlast⟩

theorem mem_names_settingsOfFields {name : String} :
    name ∈ (settingsOfFields fields).entries.map (·.1) ↔
      ∃ entry ∈ fields, entry.1.settingName = name := by
  rw [List.mem_map]
  constructor
  · rintro ⟨⟨name, v⟩, hmem, rfl⟩
    obtain ⟨key, hname, hlast⟩ := mem_settingsOfFields.mp hmem
    exact ⟨(key, v), hlast.mem, hname⟩
  · rintro ⟨entry, hentry, rfl⟩
    obtain ⟨⟨key, v⟩, hlast, hname⟩ :
        ∃ last, IsLast (·.1.settingName) fields last ∧ last.1.settingName = entry.1.settingName :=
      exists_isLast hentry
    exact ⟨(entry.1.settingName, v), mem_settingsOfFields.mpr ⟨key, hname, hlast⟩, rfl⟩

theorem snakeCase_names_settingsOfFields (fields : Fields) :
    ∀ entry ∈ (settingsOfFields fields).entries, Text.snakeCase entry.1 = entry.1 := by
  intro entry hentry
  obtain ⟨key, hname, -⟩ := mem_settingsOfFields.mp hentry
  rw [← hname]
  exact Text.snakeCase_snakeCase key.plain

/-- **Names of settings are normalised once and for all.** A normal form is its own normal form. A
map with keys of any sort is read as settings whose names are the normal forms of its keys; each
name has the value of the last entry whose key has that normal form. Reading the settings again
gives the same settings. -/
theorem settings_normalised_once (node : String) (fields : Fields) :
    (∀ key, Text.snakeCase (Text.snakeCase key) = Text.snakeCase key) ∧
    ∃ s, readSettings node (.map fields) = .ok s ∧
      (∀ name, name ∈ s.entries.map (·.1) ↔ ∃ entry ∈ fields, entry.1.settingName = name) ∧
      (∀ name v, s.get? name = some v ↔
        ∃ key, key.settingName = name ∧ IsLast (·.1.settingName) fields (key, v)) ∧
      readSettings node s.write = .ok s := by
  refine ⟨Text.snakeCase_snakeCase, settingsOfFields fields, rfl, ?_, ?_, ?_⟩
  · intro name
    exact mem_names_settingsOfFields
  · intro name v
    rw [Settings.get?_eq_some_iff]
    exact mem_settingsOfFields
  · have hagain := settingsOfFields_write (snakeCase_names_settingsOfFields fields)
    exact readSettings_eq_ok.mpr (Or.inr ⟨_, rfl, hagain.symm⟩)

-- two spellings are one setting, which stands in the place of the first and has the last value
example :
    (settingsOfFields [(.str "inputValue", .int 1), (.str "Ґанок", .int 2),
      (.str "input_value", .int 3), (.str "ґанок", .int 4)]).entries =
      [("input_value", .int 3), ("ґанок", .int 4)] :=
  rfl

end Document

end Blueprint
