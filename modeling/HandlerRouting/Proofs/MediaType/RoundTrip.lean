import HandlerRouting.MediaType.ReadBack
import HandlerRouting.Proofs.MediaType.WrittenSegments

/-!
A media type can be read back from its written form exactly when its values stay whole and are not
taken for other ones.
-/

namespace HandlerRouting.MediaType

open Text

/-- What one parameter needs so that its written form is read as it was meant. -/
structure Restored (parameter : List Char × List Char) : Prop where
  bare : isToken parameter.2 = true → quotedContent? parameter.2 = none
  whole : (segments (writeValue parameter.2)).2 = []
  admits : Admits parameter.1 parameter.2 parameter.2

section Necessity

theorem eq_nil_of_semicolon {between rest : List Char}
    (starts : ∀ c ∈ (between ++ rest).head?, c = ';') (none : between.count ';' = 0) :
    between = [] := by
  cases between with
  | nil => rfl
  | cons c between =>
    rw [starts c rfl] at none
    simp at none

theorem eq_of_semicolons {part value others more : List Char}
    (joined : part ++ others = value ++ more) (afterPart : ∀ c ∈ others.head?, c = ';')
    (afterValue : ∀ c ∈ more.head?, c = ';') (same : part.count ';' = value.count ';') :
    part = value := by
  rcases List.append_eq_append_iff.mp joined with ⟨between, rfl, rfl⟩ | ⟨between, rfl, rfl⟩
  · rw [eq_nil_of_semicolon afterPart (by simpa using same.symm), List.append_nil]
  · rw [eq_nil_of_semicolon afterValue (by simpa using same), List.append_nil]

theorem spelled_after_name {name rest : List Char} {parameter : List Char × List Char}
    (plain : isPlainToken name = true)
    (spelled : SpellsParameter (name ++ '=' :: rest) parameter) :
    parameter.1 = name ∧
      ∃ meant, Means (trim (trimEnd rest)) meant ∧ Admits name meant parameter.2 := by
  have token := token_of_plain plain
  obtain ⟨parts, first, _, means, admits⟩ := spelled
  have given := (split_parameter_iff ..).mpr
    ⟨trim_after_name plain rest, not_mem_token (by decide) token⟩
  have found := (split_parameter_iff ..).mpr ⟨parts, first⟩
  rw [given] at found
  cases found
  rw [lower_trim_plain_token plain] at admits ⊢
  exact ⟨rfl, _, means, admits⟩

theorem starts_with_semicolon (parameters : List (List Char × List Char)) :
    ∀ c ∈ (parameters.flatMap writeParameter).head?, c = ';' := by
  cases parameters with
  | nil => simp
  | cons parameter rest => simp [writeParameter]

theorem segments_start_with_semicolon (others : List (List Char)) :
    ∀ c ∈ (others.flatMap (';' :: ·)).head?, c = ';' := by
  cases others with
  | nil => simp
  | cons part rest => simp

theorem value_of_spelled {part more meant kept : List Char} {name : List Char}
    {others : List (List Char)} (split : segments (writeValue kept ++ more) = (part, others))
    (follows : ∀ c ∈ more.head?, c = ';') (means : Means (trim (trimEnd part)) meant)
    (admits : Admits name meant kept) : part = writeValue kept := by
  have joined := join_segments_from .outside (writeValue kept ++ more)
  rw [← segments, split] at joined
  refine eq_of_semicolons joined (segments_start_with_semicolon others) follows ?_
  rw [count_write_value (by decide) (by decide), admits.count (by decide), means.count_semicolon,
    count_trim (by decide), count_trim_end (by decide)]

theorem restored_of_means {name kept meant : List Char}
    (whole : (segments (writeValue kept)).2 = [])
    (means : Means (trim (trimEnd (writeValue kept))) meant) (admits : Admits name meant kept) :
    Restored (name, kept) := by
  rw [trim_end_write_value, trim_write_value] at means
  have bare := bare_of_count means (admits.count (by decide)).symm
  rw [means.unique (means_written bare)] at admits
  exact ⟨bare, whole, admits⟩

theorem mem_drop_last_cons {α : Type} {a b : α} {rest : List α}
    (member : b ∈ (a :: rest).dropLast) : b = a ∧ rest ≠ [] ∨ b ∈ rest.dropLast := by
  cases rest with
  | nil => cases member
  | cons c rest =>
    rcases List.mem_cons.mp member with rfl | later
    · exact Or.inl ⟨rfl, List.cons_ne_nil c rest⟩
    · exact Or.inr later

theorem restored_of_spelled {parameters read : List (List Char × List Char)}
    (plain : ∀ name ∈ Entries.keys parameters, isPlainToken name = true)
    (distinct : (Entries.keys parameters).Nodup)
    (spelled : List.Forall₂ SpellsParameter
      (segments (parameters.flatMap writeParameter)).2 read) (same : read.Perm parameters) :
    (∀ parameter ∈ parameters, Restored parameter) ∧
      ∀ parameter ∈ parameters.dropLast,
        Position.outside.afterText (writeValue parameter.2) = .outside := by
  induction parameters generalizing read with
  | nil => simp
  | cons parameter rest ih =>
    have namePlain : isPlainToken parameter.1 = true := plain parameter.1 (by simp [Entries.keys])
    rw [segments_written_cons namePlain] at spelled
    obtain ⟨part, others, split⟩ : ∃ part others,
      segments (writeValue parameter.2 ++ rest.flatMap writeParameter) = (part, others) :=
        ⟨_, _, rfl⟩
    simp only [split] at spelled
    obtain _ | @⟨_, found, _, readRest, first, later⟩ := spelled
    obtain ⟨sameName, meant, means, admits⟩ := spelled_after_name namePlain first
    -- The first segment begins with the first name, and no other parameter has this name.
    obtain rfl : found = parameter :=
      Entries.eq_of_key distinct (same.subset List.mem_cons_self) List.mem_cons_self sameName
    obtain rfl := value_of_spelled split (starts_with_semicolon rest) means admits
    obtain ⟨whole, outside, restSplit⟩ := segments_after_value split
    obtain ⟨restored, closed⟩ := ih (fun name member => plain name (List.mem_cons_of_mem _ member))
      (List.nodup_cons.mp distinct).2 (restSplit ▸ later) same.cons_inv
    constructor
    · intro parameter member
      rcases List.mem_cons.mp member with rfl | after
      · exact restored_of_means whole means admits
      · exact restored parameter after
    · intro parameter member
      rcases mem_drop_last_cons member with ⟨rfl, more⟩ | after
      · exact outside more
      · exact closed parameter after

theorem spelled_of_parse {m n : MediaType} (formed : WellFormed m)
    (read : parse m.text = .ok n) (same : n.parameters.Perm m.parameters) :
    List.Forall₂ SpellsParameter
      (segments (m.parameters.flatMap writeParameter)).2 n.parameters := by
  simp only [parse, parseChars, text, String.toList_ofList, segments_write formed] at read
  split at read
  · cases read
  · split at read
    · cases read
    · split at read
      · cases read
      · rename_i collected
        obtain ⟨_, _, _, kept, done, rfl⟩ := (of_components_ok_iff ..).mp read
        refine spelled_of_semicolons collected done ?_
        rw [semicolons_written formed.nameTokens]
        exact semicolons_perm same

end Necessity

section Sufficiency

theorem Admits.known {name meant kept : List Char} (admits : Admits name meant kept)
    (charset : name = charsetName) : isKnownCharset meant = true := by
  cases admits with
  | charset _ known => exact known
  | quality => exact absurd charset (by decide)
  | other notCharset _ => exact absurd charset notCharset

theorem admits_again {name meant kept : List Char} (admits : Admits name meant kept)
    (known : name = charsetName → isKnownCharset kept = true) : Admits name kept kept := by
  cases admits with
  | charset readable _ =>
    have readableAgain : '\x00' ∉ lower meant := by
      rw [← List.count_eq_zero, count_lower (by decide), List.count_eq_zero]
      exact readable
    have admits := Admits.charset readableAgain (known rfl)
    rwa [lower_lower] at admits
  | quality read number range => exact .quality read number range
  | other notCharset notQuality => exact .other notCharset notQuality

/-- What is kept of a value under a name is kept of it again. -/
theorem ReadsBack.restored {m : MediaType} (given : Obtainable m) (back : ReadsBack m) :
    ∀ parameter ∈ m.parameters, Restored parameter := by
  rintro ⟨name, kept⟩ member
  obtain ⟨_, _, _, read⟩ := given.parameter_read member
  obtain ⟨_, _, meant, _, admits⟩ := (read_parameter_iff ..).mp read
  refine ⟨back.bare _ member, back.whole _ member, admits_again admits ?_⟩
  rintro rfl
  exact back.charset kept (Entries.lookup_of_mem given.names_distinct member)

theorem collect_written (text : String) {parameters : List (List Char × List Char)}
    (plain : ∀ name ∈ Entries.keys parameters, isPlainToken name = true)
    (distinct : (Entries.keys parameters).Nodup) :
    collectParameters text [] (parameters.map writtenPart) =
      .ok (parameters.map fun parameter => (parameter.1, writeValue parameter.2)) := by
  have trimmed (parameter) (member : parameter ∈ parameters) :
      trim (writtenPart parameter) = writtenPart parameter := by
    have name := plain parameter.1 (List.mem_map_of_mem member)
    rw [writtenPart, trim_after_name name, trim_end_write_value]
  refine (collect_parameters_iff ..).mpr ⟨_, ?_, (Entries.assign_all_distinct ?_).symm⟩
  · rw [List.filter_eq_self.mpr, List.forall₂_map_left_iff, List.forall₂_map_right_iff,
      List.forall₂_same]
    · intro parameter member
      have name := plain parameter.1 (List.mem_map_of_mem member)
      rw [trimmed parameter member, writtenPart]
      exact (split_parameter_iff ..).mpr
        ⟨rfl, not_mem_token (by decide) (token_of_plain name)⟩
    · intro part member
      obtain ⟨parameter, known, rfl⟩ := List.mem_map.mp member
      rw [trimmed parameter known]
      simp [writtenPart]
  · simpa [Entries.keys, Function.comp_def] using distinct

theorem read_written (text : String) {parameters : List (List Char × List Char)}
    (plain : ∀ name ∈ Entries.keys parameters, isPlainToken name = true)
    (distinct : (Entries.keys parameters).Nodup)
    (restored : ∀ parameter ∈ parameters, Restored parameter) :
    readParameters text [] (parameters.map fun parameter => (parameter.1, writeValue parameter.2)) =
      .ok parameters := by
  refine (read_parameters_iff ..).mpr
    ⟨parameters, ?_, (Entries.assign_all_distinct distinct).symm⟩
  rw [List.forall₂_map_left_iff, List.forall₂_same]
  intro parameter member
  have name := plain parameter.1 (List.mem_map_of_mem member)
  obtain ⟨bare, _, admits⟩ := restored parameter member
  refine (read_parameter_iff ..).mpr ⟨lower_trim_plain_token name,
    token_of_plain name, parameter.2, ?_, admits⟩
  rw [trim_write_value]
  exact means_written bare

theorem split_types_written (text : String) {m : MediaType} (formed : WellFormed m) :
    splitTypes text (m.type ++ '/' :: m.subtype) = .ok (m.type, m.subtype) := by
  have typeToken := token_of_plain formed.typeToken
  have subtypeToken := token_of_plain formed.subtypeToken
  have trimmed : trim (m.type ++ '/' :: m.subtype) = m.type ++ '/' :: m.subtype := by
    refine trim_of_solid fun c member => ?_
    rcases List.mem_append.mp member with first | later
    · exact token_solid typeToken c first
    · rcases List.mem_cons.mp later with rfl | second
      · decide
      · exact token_solid subtypeToken c second
  have notLone : m.type ++ '/' :: m.subtype ≠ wildcard := by
    intro same
    have member : '/' ∈ wildcard := same ▸ by simp
    exact absurd member (by decide)
  simp only [splitTypes, trimmed, if_neg notLone]
  rw [drop_to_mark (not_mem_token (by decide) typeToken),
    take_to_mark (not_mem_token (by decide) typeToken)]
  cases subtype : m.subtype with
  | nil =>
    rw [subtype] at subtypeToken
    cases subtypeToken
  | cons c rest => rfl

theorem parse_of_restored {m : MediaType} (formed : WellFormed m)
    (restored : ∀ parameter ∈ m.parameters, Restored parameter)
    (closed : ∀ parameter ∈ m.parameters.dropLast,
      Position.outside.afterText (writeValue parameter.2) = .outside) :
    parse m.text = .ok m := by
  have typeToken := token_of_plain formed.typeToken
  have notBlank : allBlank m.write = false := by
    rw [write]
    cases type : m.type with
    | nil =>
      rw [type] at typeToken
      cases typeToken
    | cons c rest =>
      have solid := token_solid typeToken c (by simp [type])
      simp [allBlank, solid]
  have split : segments m.write =
      (m.type ++ '/' :: m.subtype, m.parameters.map writtenPart) := by
    rw [segments_write formed, segments_written formed.nameTokens
      (fun parameter member => (restored parameter member).whole) closed]
  simp only [parse, parseChars, text, String.toList_ofList, notBlank, Bool.false_eq_true,
    ↓reduceIte, split, split_types_written _ formed,
    collect_written _ formed.nameTokens formed.namesDistinct]
  refine (of_components_ok_iff ..).mpr ?_
  rw [lower_trim_plain_token formed.typeToken, lower_trim_plain_token formed.subtypeToken]
  exact ⟨typeToken, token_of_plain formed.subtypeToken, formed.wildcards,
    m.parameters, read_written _ formed.nameTokens formed.namesDistinct restored, rfl⟩

end Sufficiency

/-- Writing and reading a media type gives the same one exactly where `ReadsBack` says so, whichever
way the media type was obtained. -/
theorem read_back_iff {m : MediaType} (given : Obtainable m) :
    (∃ n, parse m.text = .ok n ∧ (n == m) = true) ↔ ReadsBack m := by
  have formed := given.wellFormed
  constructor
  · rintro ⟨n, read, same⟩
    have perm := ((beq_iff n m).mp same).2.2
    obtain ⟨restored, closed⟩ := restored_of_spelled formed.nameTokens formed.namesDistinct
      (spelled_of_parse formed read perm) perm
    constructor
    case bare => exact fun parameter member => (restored parameter member).bare
    case whole => exact fun parameter member => (restored parameter member).whole
    case closed => exact closed
    case charset =>
      intro value found
      have admits := (restored _ (Entries.mem_of_lookup found)).admits
      exact admits.known rfl
  · intro back
    exact ⟨m, parse_of_restored formed (back.restored given) back.closed, BEq.rfl⟩

theorem titled_text_read_back :
    ∃ m, m.parameters = [("title".toList, "a; \"b\"".toList)] ∧ Obtainable m ∧
      ∃ n, parse m.text = .ok n ∧ (n == m) = true := by
  let m : MediaType := ⟨"text".toList, "html".toList, [("title".toList, "a; \"b\"".toList)]⟩
  have given : Obtainable m := .parsed
    (show parse "text/html;title=\"a; \\\"b\\\"\"" = .ok m by decide +kernel)
  exact ⟨m, rfl, given, (read_back_iff given).mpr (by decide +kernel)⟩

/-- A token within apostrophes is written as it is and read without them. -/
theorem apostrophes_lost :
    ¬ ∀ m, Obtainable m → ∃ n, parse m.text = .ok n ∧ (n == m) = true := by
  intro readBack
  let m : MediaType := ⟨['a'], ['b'], [(['x'], ['\'', 'y', '\''])]⟩
  have given : Obtainable m := .parsed
    (show parse "a/b;x=\"'y'\"" = .ok m by decide +kernel)
  have bared : parse m.text = .ok ⟨['a'], ['b'], [(['x'], ['y'])]⟩ := by decide +kernel
  obtain ⟨n, read, same⟩ := readBack m given
  rw [bared] at read
  cases read
  exact absurd same (by decide +kernel)

end HandlerRouting.MediaType
