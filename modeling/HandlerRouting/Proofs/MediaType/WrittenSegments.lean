import HandlerRouting.Proofs.MediaType.Checked
import HandlerRouting.Proofs.MediaType.Segmenting
import HandlerRouting.Proofs.MediaType.Semicolons

/-!
The segments of a written media type. The types and the names of its parameters hold no semicolon
and no quote, so only a value can move the places where its text is split.
-/

namespace HandlerRouting.MediaType

open Text

theorem types_plain {m : MediaType} (formed : WellFormed m) (mark : Char)
    (separator : isTokenChar mark = false) (other : mark ≠ '/') :
    mark ∉ m.type ++ '/' :: m.subtype := by
  have first := not_mem_token separator (token_of_plain formed.typeToken)
  have second := not_mem_token separator (token_of_plain formed.subtypeToken)
  simp [first, second, other]

theorem name_plain {name : List Char} (plain : isPlainToken name = true) (mark : Char)
    (separator : isTokenChar mark = false) (other : mark ≠ '=') : mark ∉ name ++ ['='] := by
  simp [not_mem_token separator (token_of_plain plain), other]

theorem segments_after_name {name : List Char} (plain : isPlainToken name = true)
    (rest : List Char) :
    segments (name ++ '=' :: rest) = (name ++ '=' :: (segments rest).1, (segments rest).2) := by
  have whole : (segments (name ++ ['='])).2 = [] :=
    segments_from_whole (name_plain plain ';' (by decide) (by decide))
  have outside := after_text_unquoted (name_plain plain '"' (by decide) (by decide))
  have split := segments_append whole outside rest
  rwa [List.append_assoc, List.append_assoc] at split

theorem trim_after_name {name : List Char} (plain : isPlainToken name = true) (rest : List Char) :
    trim (name ++ '=' :: rest) = name ++ '=' :: trimEnd rest := by
  have token := token_of_plain plain
  have solid := token_solid token
  cases name with
  | nil => cases token
  | cons c name =>
    rw [List.cons_append, trim_cons (solid c (by simp)), trim_end_append_cons (by decide)]
    rfl

theorem segments_parameters_first (parameters : List (List Char × List Char)) :
    (segments (parameters.flatMap writeParameter)).1 = [] := by
  cases parameters with
  | nil => rfl
  | cons parameter rest => simp [writeParameter, segments, segmentsFrom]

theorem segments_write {m : MediaType} (formed : WellFormed m) :
    segments m.write =
      (m.type ++ '/' :: m.subtype, (segments (m.parameters.flatMap writeParameter)).2) := by
  have whole : (segments (m.type ++ '/' :: m.subtype)).2 = [] :=
    segments_from_whole (types_plain formed ';' (by decide) (by decide))
  have outside := after_text_unquoted (types_plain formed '"' (by decide) (by decide))
  rw [write, segments_append whole outside, segments_parameters_first, List.append_nil]

def writtenPart (parameter : List Char × List Char) : List Char :=
  parameter.1 ++ '=' :: writeValue parameter.2

theorem segments_written_cons {parameter : List Char × List Char}
    (plain : isPlainToken parameter.1 = true) (rest : List (List Char × List Char)) :
    (segments ((parameter :: rest).flatMap writeParameter)).2 =
      (parameter.1 ++
        '=' :: (segments (writeValue parameter.2 ++ rest.flatMap writeParameter)).1) ::
        (segments (writeValue parameter.2 ++ rest.flatMap writeParameter)).2 := by
  have written : (parameter :: rest).flatMap writeParameter =
      ';' :: (parameter.1 ++ '=' :: (writeValue parameter.2 ++ rest.flatMap writeParameter)) := by
    simp [writeParameter]
  rw [written, segments, segments_from_separator, segments_after_name plain]

/-- Where the reading takes the written value for the value, it found no split in it, and it stands
outside quotes behind it if there are more parameters. -/
theorem segments_after_value {value : List Char} {rest : List (List Char × List Char)}
    {others : List (List Char)}
    (split : segments (writeValue value ++ rest.flatMap writeParameter) =
      (writeValue value, others)) :
    (segments (writeValue value)).2 = [] ∧
      (rest ≠ [] → Position.outside.afterText (writeValue value) = .outside) ∧
      (segments (rest.flatMap writeParameter)).2 = others := by
  obtain ⟨whole, behind⟩ := segments_from_first split
  refine ⟨whole, ?_, ?_⟩
  · intro more
    rcases behind with ⟨nothing, _⟩ | ⟨_, _, outside, _⟩
    · cases rest with
      | nil => exact absurd rfl more
      | cons parameter rest => simp [writeParameter] at nothing
    · exact outside
  · rcases behind with ⟨nothing, none⟩ | ⟨text, starts, _, some⟩
    · rw [nothing, none]
      rfl
    · rw [starts, some]
      rfl

theorem segments_written {parameters : List (List Char × List Char)}
    (plain : ∀ name ∈ Entries.keys parameters, isPlainToken name = true)
    (whole : ∀ parameter ∈ parameters, (segments (writeValue parameter.2)).2 = [])
    (closed : ∀ parameter ∈ parameters.dropLast,
      Position.outside.afterText (writeValue parameter.2) = .outside) :
    (segments (parameters.flatMap writeParameter)).2 = parameters.map writtenPart := by
  induction parameters with
  | nil => rfl
  | cons parameter rest ih =>
    have first := whole parameter List.mem_cons_self
    rw [segments_written_cons (plain parameter.1 (by simp [Entries.keys])), List.map_cons]
    cases rest with
    | nil =>
      have split := segments_from_append first []
      rw [List.append_nil] at split
      simp [segments, split, writtenPart, segmentsFrom]
    | cons next rest =>
      have outside := closed parameter (by simp)
      have later := ih (fun name member => plain name (List.mem_cons_of_mem _ member))
        (fun other member => whole other (List.mem_cons_of_mem _ member))
        (fun other member => closed other (by simp [member]))
      rw [segments_append first outside, segments_parameters_first, List.append_nil, later]
      rfl

theorem segment_semicolons_joined (others : List (List Char)) :
    (others.flatMap (';' :: ·)).count ';' = segmentSemicolons others := by
  induction others with
  | nil => rfl
  | cons part rest ih =>
    rw [List.flatMap_cons, List.count_append, ih, segment_semicolons_cons]
    simp

theorem count_written {parameters : List (List Char × List Char)}
    (plain : ∀ name ∈ Entries.keys parameters, isPlainToken name = true) :
    (parameters.flatMap writeParameter).count ';' = semicolons parameters := by
  induction parameters with
  | nil => rfl
  | cons parameter rest ih =>
    have name := plain parameter.1 (by simp [Entries.keys])
    have none : parameter.1.count ';' = 0 :=
      List.count_eq_zero.mpr (not_mem_token (by decide) (token_of_plain name))
    rw [List.flatMap_cons, List.count_append,
      ih fun name member => plain name (List.mem_cons_of_mem _ member), semicolons_cons]
    simp [writeParameter, none, count_write_value]

theorem semicolons_written {parameters : List (List Char × List Char)}
    (plain : ∀ name ∈ Entries.keys parameters, isPlainToken name = true) :
    segmentSemicolons (segments (parameters.flatMap writeParameter)).2 =
      semicolons parameters := by
  have joined := join_segments_from .outside (parameters.flatMap writeParameter)
  rw [← segments, segments_parameters_first, joinSegments, List.nil_append] at joined
  rw [← segment_semicolons_joined, joined, count_written plain]

end HandlerRouting.MediaType
