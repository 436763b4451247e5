import HandlerRouting.Text.LowerCase

/-!
Lowering twice is lowering once, since no lower-case form has a lower-case form of its own. The
characters before the capitals are neither changed by lowering nor made by it.
-/

namespace HandlerRouting.Text

def IsLowered (c : Char) : Prop := lowerChar c = [c]

instance (c : Char) : Decidable (IsLowered c) := inferInstanceAs (Decidable (lowerChar c = [c]))

def formBounds (run : Nat × Nat × Nat × Int) : Nat × Nat × Bool :=
  let (first, last, step, shift) := run
  ((first + shift).toNat, (last + shift).toNat, step == 2 || first == last)

def areClearOf (forms : Nat × Nat × Bool) (run : Nat × Nat × Nat × Int) : Bool :=
  forms.2.1.blt run.1 || run.2.1.blt forms.1 ||
    run.2.2.1.beq 2 && forms.2.2 && ((forms.1 + run.1) % 2).beq 1

theorem forms_are_clear : (lowerRuns.all fun run =>
    lowerRuns.all fun other => areClearOf (formBounds run) other) = true := by
  decide +kernel

/-- Every form that a run gives is a character behind the capitals, but not the dotted one. -/
theorem run_forms_bounded : ∀ run ∈ lowerRuns,
    (0x5a < run.1 + run.2.2.2 ∧ run.2.1 + run.2.2.2 < 0xd800 ∨
      0xdfff < run.1 + run.2.2.2 ∧ run.2.1 + run.2.2.2 < 0x110000) ∧
    (run.2.1 + run.2.2.2 < 0x130 ∨ 0x130 < run.1 + run.2.2.2) := by
  decide +kernel

theorem in_run_iff (code first last step : Nat) (shift : Int) :
    inRun code (first, last, step, shift) = true ↔
      first ≤ code ∧ code ≤ last ∧ (code - first) % step = 0 := by
  simp [inRun, and_assoc]

theorem form_not_in_run {code : Nat} {run other : Nat × Nat × Nat × Int}
    (listed : run ∈ lowerRuns) (known : other ∈ lowerRuns) (inside : inRun code run = true) :
    inRun (code + run.2.2.2).toNat other = false := by
  have clear := List.all_eq_true.mp (List.all_eq_true.mp forms_are_clear run listed) other known
  have low := (run_forms_bounded run listed).1
  obtain ⟨first, last, step, shift⟩ := run
  obtain ⟨otherFirst, otherLast, otherStep, otherShift⟩ := other
  rw [in_run_iff] at inside
  rw [Bool.eq_false_iff, ne_eq, in_run_iff]
  simp only [areClearOf, formBounds, Bool.or_eq_true, Bool.and_eq_true, Nat.blt_eq, Nat.beq_eq,
    beq_iff_eq] at clear
  dsimp only at low ⊢
  rintro ⟨above, below, aligned⟩
  rcases clear with (before | behind) | ⟨⟨rfl, sparse⟩, odd⟩
  · omega
  · omega
  · rcases sparse with rfl | rfl <;> omega

theorem to_lower_of_not_upper {c : Char} (small : c.isUpper = false) : c.toLower = c :=
  dif_neg (of_decide_eq_false small)

theorem to_lower_behind {c : Char} (behind : 'Z'.toNat < c.toNat) : c.toLower = c := by
  have notCapital : ¬ (c.val ≥ 'A'.val ∧ c.val ≤ 'Z'.val) := by
    rintro ⟨_, atMost⟩
    exact absurd (UInt32.le_iff_toNat_le.mp atMost) (Nat.not_le.mpr behind)
  exact dif_neg notCapital

theorem run_form_valid {code : Nat} {run : Nat × Nat × Nat × Int} (listed : run ∈ lowerRuns)
    (inside : inRun code run = true) :
    (Char.ofNat (code + run.2.2.2).toNat).toNat = (code + run.2.2.2).toNat := by
  have bounds := (run_forms_bounded run listed).1
  have within := (in_run_iff code run.1 run.2.1 run.2.2.1 run.2.2.2).mp inside
  have valid : (code + run.2.2.2).toNat.isValidChar := by
    unfold Nat.isValidChar
    omega
  have made : Char.ofNat (code + run.2.2.2).toNat = Char.ofNatAux _ valid := dif_pos valid
  rw [made]
  rfl

theorem run_form_lowered {code : Nat} {run : Nat × Nat × Nat × Int} (listed : run ∈ lowerRuns)
    (inside : inRun code run = true) {d : Char} (form : d.toNat = (code + run.2.2.2).toNat) :
    'Z'.toNat < d.toNat ∧ IsLowered d := by
  obtain ⟨bounds, notDotted⟩ := run_forms_bounded run listed
  have within := (in_run_iff code run.1 run.2.1 run.2.2.1 run.2.2.2).mp inside
  have behind : 'Z'.toNat < d.toNat := by
    show 0x5a < d.toNat
    omega
  have noRun : lowerRuns.find? (inRun d.toNat) = none := by
    refine List.find?_eq_none.mpr fun other known => ?_
    rw [form, form_not_in_run listed known inside]
    exact Bool.false_ne_true
  refine ⟨behind, ?_⟩
  simp only [IsLowered, lowerChar, noRun, to_lower_behind behind,
    if_neg (show d.toNat ≠ 0x130 by omega), ite_self]

theorem ascii_forms {c : Char} (ascii : c.toNat < 0x80) : IsLowered c ∨
    'A'.toNat ≤ c.toNat ∧ 'Z'.toNat < c.toLower.toNat ∧ IsLowered c.toLower :=
  of_ascii (P := fun c => IsLowered c ∨
    'A'.toNat ≤ c.toNat ∧ 'Z'.toNat < c.toLower.toNat ∧ IsLowered c.toLower)
    (by decide +kernel) ascii

/-- A character is its own lower-case form, or it is no earlier than the capitals and its forms
stand behind them and are their own. -/
theorem lower_char_forms (c : Char) : IsLowered c ∨
    'A'.toNat ≤ c.toNat ∧ ∀ d ∈ lowerChar c, 'Z'.toNat < d.toNat ∧ IsLowered d := by
  by_cases ascii : c.toNat < 0x80
  · have forms := ascii_forms ascii
    rw [lower_char_ascii ascii]
    simpa using forms
  · by_cases own : IsLowered c
    · exact Or.inl own
    · have late : 'A'.toNat ≤ c.toNat := by
        show 0x41 ≤ c.toNat
        omega
      refine Or.inr ⟨late, fun d member => ?_⟩
      simp only [lowerChar, if_neg ascii] at member
      split at member
      · simp only [List.mem_cons, List.not_mem_nil, or_false] at member
        rcases member with rfl | rfl <;> decide
      · split at member
        · rename_i found
          rw [List.mem_singleton.mp member]
          have listed := List.mem_of_find?_eq_some found
          have inside := List.find?_some found
          exact run_form_lowered listed inside (run_form_valid listed inside)
        · rename_i notDotted _ absent
          exact absurd (by simp [IsLowered, lowerChar, ascii, notDotted, absent]) own

theorem sigma_form_lowered (before after : List Char) :
    'Z'.toNat < (sigmaForm before after).toNat ∧ IsLowered (sigmaForm before after) := by
  unfold sigmaForm
  split <;> decide

theorem lower_after_lowered (before s : List Char) : ∀ d ∈ lowerAfter before s, IsLowered d := by
  induction s generalizing before with
  | nil => simp [lowerAfter]
  | cons c rest ih =>
    intro d member
    rcases List.mem_append.mp member with first | later
    · split at first
      · rw [List.mem_singleton.mp first]
        exact (sigma_form_lowered before rest).2
      · rcases lower_char_forms c with own | ⟨_, forms⟩
        · rw [own] at first
          exact List.mem_singleton.mp first ▸ own
        · exact (forms d first).2
    · exact ih (c :: before) d later

theorem lower_lowered (s : List Char) : ∀ d ∈ lower s, IsLowered d := lower_after_lowered [] s

theorem lower_after_of_lowered (before : List Char) {s : List Char}
    (lowered : ∀ c ∈ s, IsLowered c) : lowerAfter before s = s := by
  induction s generalizing before with
  | nil => rfl
  | cons c rest ih =>
    have notSigma : c ≠ 'Σ' := by
      rintro rfl
      exact absurd (lowered 'Σ' (by simp)) (by decide)
    have own : lowerChar c = [c] := lowered c (by simp)
    rw [lowerAfter, if_neg notSigma, own, ih _ fun d member => lowered d (by simp [member])]
    rfl

theorem lower_lower (s : List Char) : lower (lower s) = lower s :=
  lower_after_of_lowered [] (lower_lowered s)

theorem count_singleton_of_ne {c d : Char} (other : c.toNat ≠ d.toNat) : [c].count d = 0 := by
  rw [List.count_eq_zero, List.mem_singleton]
  rintro rfl
  exact other rfl

section Counting
variable {d : Char} (early : d.toNat < 'A'.toNat)
include early

theorem count_lower_char (c : Char) : (lowerChar c).count d = [c].count d := by
  rcases lower_char_forms c with own | ⟨late, forms⟩
  · rw [own]
  · rw [count_singleton_of_ne (by omega), List.count_eq_zero]
    intro member
    have behind := (forms d member).1
    have order : 'A'.toNat < 'Z'.toNat := by decide
    omega

theorem count_lower_after (before s : List Char) : (lowerAfter before s).count d = s.count d := by
  induction s generalizing before with
  | nil => rfl
  | cons c rest ih =>
    have first : (if c = 'Σ' then [sigmaForm before rest] else lowerChar c).count d =
        [c].count d := by
      split
      · rename_i sigma
        have formBehind := (sigma_form_lowered before rest).1
        have sigmaBehind : 'Z'.toNat < c.toNat := sigma ▸ by decide
        have order : 'A'.toNat < 'Z'.toNat := by decide
        rw [count_singleton_of_ne (by omega), count_singleton_of_ne (by omega)]
      · exact count_lower_char early c
    rw [lowerAfter, List.count_append, first, ih, ← List.count_append]
    rfl

theorem count_lower (s : List Char) : (lower s).count d = s.count d := count_lower_after early [] s

end Counting

end HandlerRouting.Text
