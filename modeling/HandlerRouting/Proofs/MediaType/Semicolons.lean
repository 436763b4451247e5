import HandlerRouting.Proofs.MediaType.Writing

/-!
Counting semicolons. Reading gives no more of them than the segments hold, and as many only where
every segment gives a parameter of its own.
-/

namespace HandlerRouting.MediaType

open Text

/-- The semicolons of parameters in their written form: those of the values and one before each. -/
def semicolons : List (List Char × List Char) → Nat
  | [] => 0
  | parameter :: rest => parameter.2.count ';' + 1 + semicolons rest

def segmentSemicolons : List (List Char) → Nat
  | [] => 0
  | part :: rest => part.count ';' + 1 + segmentSemicolons rest

@[simp] theorem semicolons_nil : semicolons [] = 0 := rfl

@[simp] theorem semicolons_cons (parameter : List Char × List Char)
    (rest : List (List Char × List Char)) :
    semicolons (parameter :: rest) = parameter.2.count ';' + 1 + semicolons rest := rfl

@[simp] theorem segment_semicolons_cons (part : List Char) (rest : List (List Char)) :
    segmentSemicolons (part :: rest) = part.count ';' + 1 + segmentSemicolons rest := rfl

theorem semicolons_perm {parameters others : List (List Char × List Char)}
    (same : parameters.Perm others) : semicolons parameters = semicolons others := by
  induction same with
  | nil => rfl
  | cons parameter _ ih => rw [semicolons_cons, semicolons_cons, ih]
  | swap first second rest =>
    simp only [semicolons_cons]
    omega
  | trans _ _ first second => exact first.trans second

theorem semicolons_assign (name value : List Char) (entries : List (List Char × List Char)) :
    semicolons (Entries.assign name value entries) ≤
      semicolons entries + (value.count ';' + 1) := by
  induction entries with
  | nil => simp [Entries.assign]
  | cons pair rest ih =>
    rw [Entries.assign]
    split
    · simp only [semicolons_cons]
      omega
    · simp only [semicolons_cons]
      omega

theorem assign_of_semicolons {name value : List Char} {entries : List (List Char × List Char)}
    (full : semicolons (Entries.assign name value entries) =
      semicolons entries + (value.count ';' + 1)) :
    Entries.assign name value entries = entries ++ [(name, value)] := by
  induction entries with
  | nil => rfl
  | cons pair rest ih =>
    rw [Entries.assign] at full ⊢
    split at full
    · simp only [semicolons_cons] at full
      omega
    · rename_i other
      simp only [semicolons_cons] at full
      rw [if_neg other, ih (by omega)]
      rfl

theorem semicolons_assign_all (pairs entries : List (List Char × List Char)) :
    semicolons (Entries.assignAll pairs entries) ≤ semicolons entries + semicolons pairs := by
  induction pairs generalizing entries with
  | nil => exact Nat.le_refl _
  | cons pair rest ih =>
    have later := ih (Entries.assign pair.1 pair.2 entries)
    have step := semicolons_assign pair.1 pair.2 entries
    calc semicolons (Entries.assignAll (pair :: rest) entries)
        ≤ semicolons (Entries.assign pair.1 pair.2 entries) + semicolons rest := later
      _ ≤ semicolons entries + semicolons (pair :: rest) := by
        rw [semicolons_cons]
        omega

theorem assign_all_of_semicolons {pairs entries : List (List Char × List Char)}
    (full : semicolons (Entries.assignAll pairs entries) =
      semicolons entries + semicolons pairs) :
    Entries.assignAll pairs entries = entries ++ pairs := by
  induction pairs generalizing entries with
  | nil => exact (List.append_nil entries).symm
  | cons pair rest ih =>
    have unfolded : Entries.assignAll (pair :: rest) entries =
      Entries.assignAll rest (Entries.assign pair.1 pair.2 entries) := rfl
    rw [unfolded, semicolons_cons] at full
    have later := semicolons_assign_all rest (Entries.assign pair.1 pair.2 entries)
    have step := semicolons_assign pair.1 pair.2 entries
    rw [unfolded, ih (by omega), assign_of_semicolons (by omega), List.append_assoc]
    rfl

theorem semicolons_split {parts : List (List Char)} {pairs : List (List Char × List Char)}
    (each : List.Forall₂ (fun part pair => splitParameter? (trim part) = some pair) parts pairs) :
    semicolons pairs ≤ segmentSemicolons parts := by
  induction each with
  | nil => exact Nat.le_refl _
  | @cons part pair _ _ split _ ih =>
    have inside : (trim part).count ';' = part.count ';' := count_trim (by decide) part
    rw [((split_parameter_iff ..).mp split).1] at inside
    simp only [List.count_append, List.count_cons] at inside
    rw [semicolons_cons, segment_semicolons_cons]
    omega

theorem semicolons_read {text : String} {given parameters : List (List Char × List Char)}
    (each : List.Forall₂ (fun pair parameter => readParameter text pair.1 pair.2 = .ok parameter)
      given parameters) : semicolons parameters = semicolons given := by
  induction each with
  | nil => rfl
  | cons read _ ih =>
    obtain ⟨_, _, meant, means, admits⟩ := (read_parameter_iff ..).mp read
    rw [semicolons_cons, semicolons_cons, ih, admits.count (by decide), means.count_semicolon,
      count_trim (by decide)]

theorem segment_semicolons_filter (keeps : List Char → Bool) (parts : List (List Char)) :
    segmentSemicolons (parts.filter keeps) ≤ segmentSemicolons parts := by
  induction parts with
  | nil => exact Nat.le_refl _
  | cons part rest ih =>
    rw [List.filter_cons]
    split
    · simpa using ih
    · rw [segment_semicolons_cons]
      omega

theorem filter_of_semicolons {keeps : List Char → Bool} {parts : List (List Char)}
    (full : segmentSemicolons (parts.filter keeps) = segmentSemicolons parts) :
    parts.filter keeps = parts := by
  induction parts with
  | nil => rfl
  | cons part rest ih =>
    rw [List.filter_cons] at full ⊢
    split at full
    · rename_i kept
      rw [if_pos kept, ih (by simpa using full)]
    · have others := segment_semicolons_filter keeps rest
      rw [segment_semicolons_cons] at full
      omega

theorem spelled_of_split_read {text : String} {parts : List (List Char)}
    {pairs parameters : List (List Char × List Char)}
    (split : List.Forall₂ (fun part pair => splitParameter? (trim part) = some pair) parts pairs)
    (read : List.Forall₂ (fun pair parameter => readParameter text pair.1 pair.2 = .ok parameter)
      pairs parameters) : List.Forall₂ SpellsParameter parts parameters := by
  induction split generalizing parameters with
  | nil =>
    cases read
    exact .nil
  | cons found _ ih =>
    cases read with
    | @cons _ parameter _ _ one others =>
      obtain ⟨name, kept⟩ := parameter
      obtain ⟨parts, first⟩ := (split_parameter_iff ..).mp found
      obtain ⟨rfl, token, meant, means, admits⟩ := (read_parameter_iff ..).mp one
      exact .cons (.mk parts first token means admits) (ih others)

/-- Segments whose semicolons all come into the parameters give one parameter each. -/
theorem spelled_of_semicolons {text : String} {parts : List (List Char)}
    {gathered kept : List (List Char × List Char)}
    (collected : collectParameters text [] parts = .ok gathered)
    (done : readParameters text [] gathered = .ok kept)
    (full : semicolons kept = segmentSemicolons parts) :
    List.Forall₂ SpellsParameter parts kept := by
  obtain ⟨pairs, split, rfl⟩ := (collect_parameters_iff ..).mp collected
  obtain ⟨parameters, read, rfl⟩ := (read_parameters_iff ..).mp done
  -- No step of the reading gives more than it was given, so each gives all of it.
  have first := segment_semicolons_filter (fun part => !(trim part).isEmpty) parts
  have second := semicolons_split split
  have third := semicolons_assign_all pairs []
  have fourth := semicolons_read read
  have fifth := semicolons_assign_all parameters []
  rw [semicolons_nil] at third fifth
  rw [filter_of_semicolons (by omega)] at split
  have pairsKept : Entries.assignAll pairs [] = pairs :=
    assign_all_of_semicolons (by rw [semicolons_nil]; omega)
  have parametersKept : Entries.assignAll parameters [] = parameters :=
    assign_all_of_semicolons (by rw [semicolons_nil]; omega)
  rw [pairsKept] at read
  rw [parametersKept]
  exact spelled_of_split_read split read

end HandlerRouting.MediaType
