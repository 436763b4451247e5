import HandlerRouting.Proofs.MediaType.Repetition

/-!
Refusals of media types. A text that cannot be read is refused with a flaw of its own, unless the
first of its writings that cannot be read is a charset with a NUL character in it.
-/

namespace HandlerRouting.MediaType

open Text

section Parameters
variable {text : String}

theorem admit_nul_iff (name value : List Char) :
    admitValue name value = .error .nulInCharset ↔ name = charsetName ∧ '\x00' ∈ value := by
  constructor
  · intro refused
    unfold admitValue at refused
    split at refused
    · rename_i charset
      split at refused
      · rename_i nul
        exact ⟨charset, by simpa using nul⟩
      · split at refused <;> cases refused
    · split at refused
      · split at refused
        · cases refused
        · split at refused
          · cases refused
          · split at refused <;> cases refused
      · cases refused
  · rintro ⟨rfl, nul⟩
    simp [admitValue, nul]

theorem refusal_nul_iff (text : String) (name value : List Char) (flaw : ValueFlaw) :
    flaw.refusal text name value = .nulInCharset ↔ flaw = .nulInCharset := by
  cases flaw <;> simp [ValueFlaw.refusal]

theorem read_parameter_nul_iff (name value : List Char) :
    readParameter text name value = .error .nulInCharset ↔
      plainName name = charsetName ∧ ∃ meant, Means (trim value) meant ∧ '\x00' ∈ meant := by
  have token : isToken charsetName = true := by decide
  constructor
  · intro refused
    simp only [readParameter] at refused
    split at refused
    · cases refused
    · split at refused
      · cases refused
      · rename_i meant means
        split at refused
        · cases refused
        · rename_i flaw unfit
          have nul := (refusal_nul_iff ..).mp (Except.error.inj refused)
          rw [nul, admit_nul_iff] at unfit
          exact ⟨unfit.1, meant, (read_value_iff ..).mp means, unfit.2⟩
  · rintro ⟨charset, meant, means, nul⟩
    have unfit := (admit_nul_iff charsetName meant).mpr ⟨rfl, nul⟩
    rw [plainName] at charset
    simp only [readParameter, charset, token, Bool.not_true, Bool.false_eq_true, ↓reduceIte,
      (read_value_iff ..).mpr means, unfit]
    rfl

theorem read_parameter_refused {name value : List Char} {refusal : Refusal}
    (refused : readParameter text name value = .error refusal) :
    refusal = .nulInCharset ∨ ∃ flaw, refusal = .flawed text flaw := by
  simp only [readParameter] at refused
  split at refused
  · cases refused
    exact Or.inr ⟨.parameterName name, rfl⟩
  · split at refused
    · cases refused
      exact Or.inr ⟨_, rfl⟩
    · split at refused
      · cases refused
      · rename_i flaw _
        cases refused
        cases flaw with
        | nulInCharset => exact Or.inl rfl
        | unquoted => exact Or.inr ⟨_, rfl⟩
        | unknownCharset => exact Or.inr ⟨_, rfl⟩
        | notNumber => exact Or.inr ⟨_, rfl⟩
        | outOfRange => exact Or.inr ⟨_, rfl⟩

theorem read_parameters_refused_iff (text : String) (read given : List (List Char × List Char))
    (refusal : Refusal) :
    readParameters text read given = .error refusal ↔ ∃ front pair back,
      given = front ++ pair :: back ∧ (∀ earlier ∈ front, ∃ parameter, Gives earlier parameter) ∧
        readParameter text pair.1 pair.2 = .error refusal := by
  induction given generalizing read with
  | nil => simp [readParameters]
  | cons first rest ih =>
    simp only [readParameters]
    cases found : readParameter text first.1 first.2 with
    | error own =>
      dsimp only
      constructor
      · rintro ⟨⟩
        exact ⟨[], first, rest, rfl, by simp, found⟩
      · rintro ⟨front, pair, back, parts, fit, refused⟩
        rcases List.cons_eq_append_iff.mp parts with ⟨rfl, here⟩ | ⟨before, rfl, rfl⟩
        · cases here
          rw [found] at refused
          cases refused
          rfl
        · obtain ⟨parameter, gives⟩ := fit first (by simp)
          rw [(gives_iff text ..).mp gives] at found
          cases found
    | ok parameter =>
      dsimp only
      rw [ih]
      constructor
      · rintro ⟨front, pair, back, rfl, fit, refused⟩
        refine ⟨first :: front, pair, back, rfl, ?_, refused⟩
        exact List.forall_mem_cons.mpr ⟨⟨parameter, (gives_iff text ..).mpr found⟩, fit⟩
      · rintro ⟨front, pair, back, parts, fit, refused⟩
        rcases List.cons_eq_append_iff.mp parts with ⟨rfl, here⟩ | ⟨before, rfl, rfl⟩
        · cases here
          rw [found] at refused
          cases refused
        · exact ⟨before, pair, back, rfl, (List.forall_mem_cons.mp fit).2, refused⟩

end Parameters

theorem map_error_iff {α β : Type} (f : α → β) (read : Except Refusal α) (refusal : Refusal) :
    read.map f = .error refusal ↔ read = .error refusal := by
  cases read <;> simp [Except.map]

section Texts
variable {text : String}

theorem parse_nul_iff (text : String) :
    parse text = .error .nulInCharset ↔ HidesNul text.toList := by
  constructor
  · intro refused
    rcases parse_spelled_or_flawed text with
      ⟨type, subtype, gathered, types, collected, parsed⟩ | ⟨flaw, flawed⟩
    · obtain ⟨pairs, writes, rfl⟩ := (collect_written_iff ..).mp collected
      rw [parsed, map_error_iff] at refused
      obtain ⟨front, pair, back, settled, fit, nul⟩ := (read_parameters_refused_iff ..).mp refused
      obtain ⟨charset, meant, means, inside⟩ := (read_parameter_nul_iff ..).mp nul
      exact .mk ((written_iff ..).mpr ⟨types, writes⟩) (settles_iff.mpr settled.symm) fit charset
        means inside
    · rw [flawed] at refused
      cases refused
  · rintro ⟨written, settles, fit, charset, means, nul⟩
    obtain ⟨types, writes⟩ := (written_iff ..).mp written
    have collected := (collect_written_iff text ..).mpr ⟨_, writes, rfl⟩
    have unread := (read_parameters_refused_iff text [] ..).mpr
      ⟨_, _, _, (settles_iff.mp settles).symm, fit,
        (read_parameter_nul_iff ..).mpr ⟨charset, _, means, nul⟩⟩
    rw [parse_of_spelled types collected, map_error_iff]
    exact unread

/-- Apart from the NUL character every refusal names the text and a flaw of it. -/
theorem parse_refused {refusal : Refusal} (refused : parse text = .error refusal) :
    refusal = .nulInCharset ∨ ∃ flaw, refusal = .flawed text flaw := by
  rcases parse_spelled_or_flawed text with ⟨_, _, gathered, _, _, parsed⟩ | ⟨flaw, flawed⟩
  · rw [parsed, map_error_iff] at refused
    obtain ⟨_, _, _, _, _, unread⟩ := (read_parameters_refused_iff ..).mp refused
    exact read_parameter_refused unread
  · rw [flawed] at refused
    cases refused
    exact Or.inr ⟨flaw, rfl⟩

theorem parse_outcome_iff (text : String) :
    ((∃ m, parse text = .ok m) ∨ ∃ flaw, parse text = .error (.flawed text flaw)) ↔
      ¬ HidesNul text.toList := by
  rw [← parse_nul_iff]
  constructor
  · rintro (⟨m, read⟩ | ⟨flaw, flawed⟩) nul
    · rw [nul] at read
      cases read
    · rw [nul] at flawed
      cases flawed
  · intro seen
    cases read : parse text with
    | ok m => exact Or.inl ⟨m, rfl⟩
    | error refusal =>
      rcases parse_refused read with rfl | ⟨flaw, rfl⟩
      · exact absurd read seen
      · exact Or.inr ⟨flaw, rfl⟩

end Texts

theorem HidesNul.has_nul {s : List Char} (hides : HidesNul s) : '\x00' ∈ s := by
  cases hides with
  | @mk _ _ _ pairs front back pair written settles _ _ means nul =>
    have listed : pair ∈ pairs := settles.listed (by simp)
    exact written.value_subset listed (mem_of_trimmed (means.subset nul))

end HandlerRouting.MediaType
