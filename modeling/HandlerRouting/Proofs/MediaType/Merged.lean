import HandlerRouting.MediaType.Merged
import HandlerRouting.Proofs.Entries.Assigning
import HandlerRouting.Proofs.MediaType.Checked
import HandlerRouting.Proofs.MediaType.Repetition
import HandlerRouting.Proofs.MediaType.Writing

/-!
Adding parameters comes to the merged ones. Every value is written and read again on the way, and
comes back unless it looks quoted. It is the value as it was given that counts, and not the lower
case in which a charset is kept.
-/

namespace HandlerRouting.MediaType

open Text

section Values
variable {value : List Char}

theorem looks_quoted_iff (value : List Char) : looksQuoted value = true ↔
    isToken value = true ∧ ∃ content, value = '\'' :: content ++ ['\''] := by
  simp only [looksQuoted, Bool.and_eq_true, decide_eq_true_eq, beq_iff_eq, and_assoc]
  refine and_congr_right fun _ => ⟨?_, ?_⟩
  · rintro ⟨long, first, last⟩
    obtain ⟨rest, rfl⟩ := List.head?_eq_some_iff.mp first
    cases rest with
    | nil => simp at long
    | cons c rest =>
      rw [List.getLast?_cons_cons] at last
      obtain ⟨content, whole⟩ := List.getLast?_eq_some_iff.mp last
      exact ⟨content, by rw [whole, List.cons_append]⟩
  · rintro ⟨content, rfl⟩
    exact ⟨by simp, rfl, List.getLast?_concat⟩

theorem regained_of_quoted (quoted : looksQuoted value = true) :
    value = '\'' :: regained value ++ ['\''] := by
  obtain ⟨_, content, whole⟩ := (looks_quoted_iff value).mp quoted
  rw [regained, if_pos quoted, whole]
  simp

theorem regained_of_bare (bare : looksQuoted value = false) : regained value = value := by
  simp [regained, bare]

theorem bare_iff (value : List Char) : looksQuoted value = false ↔
    (isToken value = true → quotedContent? value = none) := by
  rw [← Bool.not_eq_true, looks_quoted_iff, not_and]
  refine forall_congr' fun token => ?_
  rw [Option.eq_none_iff_forall_ne_some, not_exists]
  simp only [ne_eq, quoted_content_iff, not_exists, not_and]
  constructor
  · rintro plain content mark (rfl | rfl) same
    · exact not_mem_token (d := '"') (by decide) token (by simp [same])
    · exact plain content same
  · intro plain content
    exact plain content '\'' (Or.inr rfl)

/-- What a written value means is what the value comes back as. -/
theorem means_regained (value : List Char) : Means (writeValue value) (regained value) := by
  cases quoted : looksQuoted value with
  | false =>
    rw [regained_of_bare quoted]
    exact means_written ((bare_iff value).mp quoted)
  | true =>
    have whole := regained_of_quoted quoted
    have token := ((looks_quoted_iff value).mp quoted).1
    have plain : '\\' ∉ regained value := by
      intro member
      exact not_mem_token (d := '\\') (by decide) token (by rw [whole]; simp [member])
    have means := Means.quotes (regained value) (Or.inr rfl : isQuoteMark '\'')
    rw [write_value_token token]
    rwa [unescape_nothing plain, ← whole] at means

theorem kept_form_regained_iff (name value : List Char) :
    keptForm (name, regained value) = keptForm (name, value) ↔ looksQuoted value = false := by
  constructor
  · intro same
    rw [← Bool.not_eq_true]
    intro quoted
    -- Two apostrophes are gone, and lower case brings none back.
    have kept (text : List Char) : (keptForm (name, text)).2.count '\'' = text.count '\'' := by
      unfold keptForm
      split
      · exact count_lower (by decide) text
      · rfl
    have counts := congrArg (fun parameter => parameter.2.count '\'') same
    simp only [kept] at counts
    have more : value.count '\'' = (regained value).count '\'' + 2 := by
      rw [congrArg (List.count '\'') (regained_of_quoted quoted)]
      simp
    omega
  · intro bare
    rw [regained_of_bare bare]

end Values

section Merging
variable {m n : MediaType} {added : List (List Char × List Char)}

theorem Admits.kept_form {name meant kept : List Char} (admits : Admits name meant kept) :
    (name, kept) = keptForm (name, meant) := by
  cases admits with
  | charset => simp [keptForm]
  | quality =>
    have other : qualityName ≠ charsetName := by decide
    simp [keptForm, other]
  | other notCharset _ => simp [keptForm, notCharset]

theorem Gives.of_written {writing value : List Char} {parameter : List Char × List Char}
    (gives : Gives (writing, writeValue value) parameter) :
    parameter = keptForm (plainName writing, regained value) := by
  cases gives with
  | mk _ means admits =>
    rw [trim_write_value] at means
    obtain rfl := means.unique (means_regained value)
    exact admits.kept_form

theorem given_written {pairs given : List (List Char × List Char)}
    (each : List.Forall₂ Gives (pairs.map fun pair => (pair.1, writeValue pair.2)) given) :
    given = keptParameters (pairs.map plainParameter) := by
  rw [List.forall₂_map_left_iff] at each
  induction each with
  | nil => rfl
  | cons gives _ ih => rw [gives.of_written, ih]; rfl

theorem with_parameters_merged (given : Obtainable m) (read : m.withParameters added = .ok n) :
    n.type = m.type ∧ n.subtype = m.subtype ∧ n.parameters = keptParameters (m.merged added) := by
  have formed := given.wellFormed
  obtain ⟨_, _, _, kept, done, rfl⟩ := (of_components_ok_iff ..).mp read
  refine ⟨lower_trim_plain_token formed.typeToken, lower_trim_plain_token formed.subtypeToken, ?_⟩
  obtain ⟨parameters, each, rfl⟩ := (read_parameters_iff ..).mp done
  simp only [← gives_iff] at each
  rw [given_written each]
  exact (Entries.change_of_pairs (fun name value => (keptForm (name, regained value)).2) _).symm

/-- The merged parameters come out of an edit unless a value of theirs looks quoted. -/
theorem kept_perm_iff (m : MediaType) (added : List (List Char × List Char)) :
    (keptParameters (m.merged added)).Perm ((m.merged added).map keptForm) ↔
      ∀ parameter ∈ m.merged added, looksQuoted parameter.2 = false := by
  constructor
  · intro same parameter listed
    have values := Entries.values_of_perm (Entries.of_pairs_nodup _)
      (fun name value => (keptForm (name, regained value)).2)
      (fun name value => (keptForm (name, value)).2) same parameter listed
    exact (kept_form_regained_iff parameter.1 parameter.2).mp (Prod.ext rfl values)
  · intro bare
    have same : keptParameters (m.merged added) = (m.merged added).map keptForm :=
      List.map_congr_left fun parameter listed =>
        (kept_form_regained_iff parameter.1 parameter.2).mpr (bare parameter listed)
    rw [same]

theorem merged_eq_assigned (formed : WellFormed m)
    (apart : (added.map fun parameter => plainName parameter.1).Nodup) :
    m.merged added = Entries.assignAll (added.map plainParameter) m.parameters := by
  have names : ∀ name ∈ Entries.keys m.parameters, plainName name = name :=
    fun name member => lower_trim_plain_token (formed.nameTokens name member)
  have own : Entries.renameKeys plainName m.parameters = m.parameters := by
    refine (List.map_congr_left fun parameter listed => ?_).trans (List.map_id _)
    exact Prod.ext (names _ (List.mem_map_of_mem listed)) rfl
  have kept : Entries.ofPairs m.parameters = m.parameters :=
    Entries.assign_all_distinct formed.namesDistinct
  have addedApart : (Entries.keys (Entries.renameKeys plainName added)).Nodup := by
    rwa [Entries.keys_rename, Entries.keys, List.map_map]
  have swapped : m.merged added = Entries.assignAll (added.map plainParameter)
      (Entries.ofPairs (Entries.renameKeys plainName m.parameters)) :=
    Entries.of_pairs_rename_assign_all formed.namesDistinct addedApart
      fun name _ present other listed same => by
        rwa [names name present, names other listed] at same
  rw [swapped, own, kept]

end Merging

/-- Added parameters come to the merged ones exactly when no value of these looks quoted as it was
given. -/
theorem with_parameters_merge_iff {m n : MediaType} {added : List (List Char × List Char)}
    (given : Obtainable m) (read : m.withParameters added = .ok n) :
    n.type = m.type ∧ n.subtype = m.subtype ∧
    (n.parameters.Perm ((m.merged added).map keptForm) ↔
      ∀ parameter ∈ m.merged added, looksQuoted parameter.2 = false) ∧
    ((added.map fun parameter => plainName parameter.1).Nodup →
      m.merged added = Entries.assignAll (added.map plainParameter) m.parameters) := by
  obtain ⟨type, subtype, parameters⟩ := with_parameters_merged given read
  refine ⟨type, subtype, ?_, merged_eq_assigned given.wellFormed⟩
  rw [parameters]
  exact kept_perm_iff m added

theorem titled_page_merged :
    ∃ m n : MediaType, parse "text/html;charset=437;title=\"a b\"" = .ok m ∧
      m.withParameters [("Charset".toList, "Arabic".toList), ([' ', 'n'], ['\'', ';', '\''])] =
        .ok n ∧
      n.parameters.Perm [("charset".toList, "arabic".toList), ("title".toList, "a b".toList),
        (['n'], ['\'', ';', '\''])] := by
  let m : MediaType := ⟨"text".toList, "html".toList,
    [("charset".toList, "437".toList), ("title".toList, "a b".toList)]⟩
  let n : MediaType := ⟨"text".toList, "html".toList,
    [("charset".toList, "arabic".toList), ("title".toList, "a b".toList),
      (['n'], ['\'', ';', '\''])]⟩
  have first : parse "text/html;charset=437;title=\"a b\"" = .ok m := by decide
  have read : m.withParameters
      [("Charset".toList, "Arabic".toList), ([' ', 'n'], ['\'', ';', '\''])] = .ok n := by decide
  obtain ⟨_, _, merges, _⟩ := with_parameters_merge_iff (.parsed first) read
  exact ⟨m, n, first, read, merges.mpr (by decide)⟩

/-- The Kelvin sign is no part of a token, but the letter is that it is kept as. -/
theorem kelvin_sign_merged :
    ¬ ∀ (m n : MediaType) (added : List (List Char × List Char)), Obtainable m →
      m.withParameters added = .ok n →
        (n.parameters.Perm ((m.merged added).map keptForm) ↔
          ∀ parameter ∈ (m.merged added).map keptForm, looksQuoted parameter.2 = false) := by
  intro decided
  let m : MediaType := ⟨['a'], ['b'], []⟩
  let n : MediaType := ⟨['a'], ['b'], [(charsetName, "'k437'".toList)]⟩
  let added := [(charsetName, "'\u212a437'".toList)]
  have made : parse "a/b" = .ok m := by decide
  have read : m.withParameters added = .ok n := by decide
  have same : n.parameters.Perm ((m.merged added).map keptForm) := by decide
  have bare := (decided m n added (.parsed made) read).mp same
  exact absurd (bare (charsetName, "'k437'".toList) (by decide)) (by decide)

end HandlerRouting.MediaType
