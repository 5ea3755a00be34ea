import Mathlib.Data.List.Basic
import Blueprint.Text.SnakeCase

/-!
# Proofs: the normal form of keys

A character is settled if the table has no small letter for it. Settled characters are left as they
are, whatever stands around them, and the small letters of the table are settled, since no run of
capitals reaches into the small letters of another one or of itself: where they overlap, capitals
and small letters alternate. So a text in small letters is left as it is, and as there is no capital
in it, no underscores are added to it either.
-/

namespace Blueprint.Text

/-! ## The table -/

namespace CapitalRun

/-- The small letter of the last capital. -/
def smallLast (run : CapitalRun) : Nat := run.small + (run.last - run.first)

/-- No small letter of a run is a capital of another one: they lie before its capitals, behind them
or in between. -/
def misses (run run' : CapitalRun) : Bool :=
  Nat.blt run.smallLast run'.first || Nat.blt run'.last run.small ||
    (run'.stride == 2 && (run.stride == 2 || run.first == run.last) &&
      (run.small + run'.first) % 2 == 1)

theorem contains_iff {run : CapitalRun} {n : Nat} :
    run.contains n = true ↔
      run.first ≤ n ∧ n ≤ run.last ∧ (n - run.first) % run.stride = 0 := by
  simp only [contains, Bool.and_eq_true, decide_eq_true_eq, beq_iff_eq, and_assoc]

/-- What `misses` finds by looking at the ends of runs holds of each of their letters. -/
theorem not_contains_smallOf {run run' : CapitalRun} {n : Nat} (h : run.misses run' = true)
    (hn : run.contains n = true) : run'.contains (run.smallOf n) = false := by
  rw [Bool.eq_false_iff]
  intro hcapital
  obtain ⟨hfirst, hlast, hstride⟩ := contains_iff.mp hn
  obtain ⟨hfirst', hlast', hstride'⟩ := contains_iff.mp hcapital
  simp only [misses, smallLast, Bool.or_eq_true, Bool.and_eq_true, Nat.blt_eq, beq_iff_eq] at h
  unfold smallOf at hfirst' hlast' hstride'
  rcases h with (hbefore | hbehind) | ⟨⟨htwo', htwo⟩, hodd⟩
  · omega
  · omega
  · -- both go up in steps of two, from an odd distance
    have heven : (n - run.first) % 2 = 0 := by
      rcases htwo with htwo | hsingle
      · rw [← htwo]
        exact hstride
      · omega
    rw [htwo'] at hstride'
    omega

end CapitalRun

/-- No small letter of the table is one of its capitals. -/
theorem capitalRuns_apart :
    (capitalRuns.all fun run => capitalRuns.all fun run' => run.misses run') = true := by
  decide +kernel

/-- All small letters of a run are characters. -/
theorem capitalRuns_valid : ∀ run ∈ capitalRuns,
    run.smallLast < 0xD800 ∨ 0xDFFF < run.small ∧ run.smallLast < 0x110000 := by
  decide +kernel

theorem mem_of_capitalRun? {n : Nat} {run : CapitalRun} (h : capitalRun? n = some run) :
    run ∈ capitalRuns ∧ run.contains n = true := by
  obtain ⟨hfound, hcontains⟩ := Option.filter_eq_some_iff.mp h
  exact ⟨List.mem_of_find?_eq_some hfound, hcontains⟩

/-! ## Settled characters -/

/-- The table has no small letter for a character. -/
def IsSettled (c : Char) : Prop := capitalRun? c.toNat = none

instance (c : Char) : Decidable (IsSettled c) :=
  inferInstanceAs (Decidable (capitalRun? c.toNat = none))

/-- The table has no small letter for the small letters that it gives. -/
theorem isSettled_toSmall (c : Char) : IsSettled (toSmall c) := by
  unfold toSmall
  split
  · next run hrun =>
    obtain ⟨hmem, hcontains⟩ := mem_of_capitalRun? hrun
    have hvalid : (run.smallOf c.toNat).isValidChar := by
      have hcodes := capitalRuns_valid run hmem
      obtain ⟨hfirst, hlast, -⟩ := CapitalRun.contains_iff.mp hcontains
      unfold CapitalRun.smallLast at hcodes
      unfold CapitalRun.smallOf Nat.isValidChar
      omega
    have hcode : (Char.ofNat (run.smallOf c.toNat)).toNat = run.smallOf c.toNat := by
      rw [Char.ofNat, dif_pos hvalid]
      rfl
    unfold IsSettled
    rw [hcode, Option.eq_none_iff_forall_ne_some]
    intro run' hrun'
    obtain ⟨hmem', hcapital⟩ := mem_of_capitalRun? hrun'
    have hmisses := List.all_eq_true.mp (List.all_eq_true.mp capitalRuns_apart run hmem) run' hmem'
    rw [CapitalRun.not_contains_smallOf hmisses hcontains] at hcapital
    cases hcapital
  · next hnone => exact hnone

theorem IsSettled.toSmall_eq {c : Char} (h : IsSettled c) : toSmall c = c := by
  unfold toSmall
  rw [h]

/-- The capitals `A` to `Z` are the first run of the table. -/
theorem IsSettled.not_isUpper {c : Char} (h : IsSettled c) : c.isUpper = false := by
  rw [Bool.eq_false_iff]
  intro hupper
  have hbounds : 'A'.val ≤ c.val ∧ c.val ≤ 'Z'.val := of_decide_eq_true hupper
  rw [UInt32.le_iff_toNat_le, UInt32.le_iff_toNat_le] at hbounds
  have hlatin : 0x41 ≤ c.toNat ∧ c.toNat ≤ 0x5A := hbounds
  have hfound : capitalRuns.find? (c.toNat ≤ ·.last) = some ⟨0x41, 0x5A, 1, 0x61⟩ :=
    List.find?_cons_of_pos (decide_eq_true hlatin.2)
  have hcontains : CapitalRun.contains ⟨0x41, 0x5A, 1, 0x61⟩ c.toNat = true :=
    CapitalRun.contains_iff.mpr ⟨hlatin.1, hlatin.2, Nat.mod_one _⟩
  unfold IsSettled capitalRun? at h
  rw [hfound, Option.filter_some, if_pos hcontains] at h
  cases h

/-! ## Texts -/

theorem isSettled_of_mem_smallForm {before after : List Char} {c x : Char}
    (h : x ∈ smallForm before c after) : IsSettled x := by
  unfold smallForm at h
  split at h
  · rw [List.mem_singleton.mp h]
    decide
  · split at h
    · rcases List.mem_cons.mp h with rfl | h
      · exact isSettled_toSmall c
      · rw [List.mem_singleton.mp h]
        decide
    · rw [List.mem_singleton.mp h]
      exact isSettled_toSmall c

/-- The characters with rules of their own are not settled. -/
theorem IsSettled.smallForm_eq {c : Char} (h : IsSettled c) (before after : List Char) :
    smallForm before c after = [c] := by
  have hsigma : c ≠ capitalSigma := by
    rintro rfl
    exact absurd h (by decide)
  have hdotted : c ≠ dottedCapital := by
    rintro rfl
    exact absurd h (by decide)
  unfold smallForm
  rw [if_neg fun hword => hsigma hword.1, if_neg hdotted, h.toSmall_eq]

/-- A text in small letters has settled characters only. -/
theorem isSettled_of_mem_lowerChars {before cs : List Char} :
    ∀ x ∈ lowerChars before cs, IsSettled x := by
  induction cs generalizing before with
  | nil => simp [lowerChars]
  | cons c cs ih =>
    intro x hx
    rcases List.mem_append.mp hx with hx | hx
    · exact isSettled_of_mem_smallForm hx
    · exact ih x hx

theorem lowerChars_of_settled {before cs : List Char} (h : ∀ c ∈ cs, IsSettled c) :
    lowerChars before cs = cs := by
  induction cs generalizing before with
  | nil => rfl
  | cons c cs ih =>
    obtain ⟨hc, hcs⟩ := List.forall_mem_cons.mp h
    rw [lowerChars, hc.smallForm_eq, ih hcs, List.singleton_append]

theorem separated_of_settled {cs : List Char} (h : ∀ c ∈ cs, IsSettled c) : separated cs = cs := by
  cases cs with
  | nil => rfl
  | cons c cs =>
    have hrest : ∀ d ∈ cs, (if d.isUpper then ['_', d] else [d]) = [d] := by
      intro d hd
      rw [if_neg]
      simp [(h d (List.mem_cons_of_mem _ hd)).not_isUpper]
    rw [separated, List.flatMap_congr hrest, List.flatMap_singleton']

/-- A normal form is its own normal form. -/
theorem snakeCase_snakeCase (key : String) : snakeCase (snakeCase key) = snakeCase key := by
  have hsettled : ∀ c ∈ (snakeCase key).toList, IsSettled c := by
    unfold snakeCase lower
    rw [String.toList_ofList]
    exact isSettled_of_mem_lowerChars
  have hagain : lowerChars [] (separated (snakeCase key).toList) = (snakeCase key).toList := by
    rw [separated_of_settled hsettled, lowerChars_of_settled hsettled]
  rw [snakeCase, lower, String.toList_ofList, hagain, String.ofList_toList]

end Blueprint.Text
