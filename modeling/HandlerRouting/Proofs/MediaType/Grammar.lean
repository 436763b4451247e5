import HandlerRouting.Proofs.MediaType.Dividing
import HandlerRouting.Proofs.MediaType.Reading
import Mathlib.Data.List.Nodup

/-!
The reader against the grammar: where no parameter is named twice, a text is read exactly when it
spells a media type, and as the one that it spells.
-/

namespace HandlerRouting.MediaType

open Text

section Types

theorem split_types_lone (text : String) {segment : List Char} (lone : trim segment = wildcard) :
    splitTypes text segment = .ok (wildcard, wildcard) := by
  unfold splitTypes
  rw [if_pos lone]
  rfl

theorem split_types_iff (text : String) {segment : List Char} (pair : trim segment ≠ wildcard)
    (type subtype : List Char) :
    splitTypes text segment = .ok (type, subtype) ↔
      trim segment = type ++ '/' :: subtype ∧ '/' ∉ type ∧ subtype ≠ [] := by
  unfold splitTypes
  rw [if_neg pair]
  dsimp only
  constructor
  · intro found
    split at found
    · cases found
    · cases found
    · rename_i c rest more left
      cases found
      obtain ⟨parts, absent⟩ := eq_around_mark left
      exact ⟨parts, absent, by simpa using more⟩
  · rintro ⟨parts, absent, more⟩
    rw [parts, drop_to_mark absent, take_to_mark absent]
    split
    · simp_all
    · simp_all
    · simp_all

theorem spells_types_iff (text : String) (segment plainType plainSubtype : List Char) :
    SpellsTypes segment plainType plainSubtype ↔
      ∃ type subtype, splitTypes text segment = .ok (type, subtype) ∧
        isToken (lower (trim type)) = true ∧ isToken (lower (trim subtype)) = true ∧
        (lower (trim type) = wildcard → lower (trim subtype) = wildcard) ∧
        plainType = lower (trim type) ∧ plainSubtype = lower (trim subtype) := by
  have star : lower (trim wildcard) = wildcard := by decide
  constructor
  · intro spells
    cases spells with
    | all lone =>
      exact ⟨wildcard, wildcard, split_types_lone text lone, by rw [star]; decide,
        by rw [star]; decide, fun _ => star, star.symm, star.symm⟩
    | @pair type subtype parts first more typeToken subtypeToken wildcards =>
      have pair : trim segment ≠ wildcard := by
        intro lone
        have slash : '/' ∈ wildcard := by simp [← lone, parts]
        exact absurd slash (by decide)
      exact ⟨type, subtype, (split_types_iff text pair type subtype).mpr ⟨parts, first, more⟩,
        typeToken, subtypeToken, wildcards, rfl, rfl⟩
  · rintro ⟨type, subtype, found, typeToken, subtypeToken, wildcards, rfl, rfl⟩
    by_cases lone : trim segment = wildcard
    · rw [split_types_lone text lone] at found
      cases found
      rw [star]
      exact .all lone
    · obtain ⟨parts, first, more⟩ := (split_types_iff text lone type subtype).mp found
      exact .pair parts first more typeToken subtypeToken wildcards

end Types

section Parameters

theorem spells_parameter_iff (text : String) (segment : List Char)
    (parameter : List Char × List Char) :
    SpellsParameter segment parameter ↔ ∃ pair, splitParameter? (trim segment) = some pair ∧
      readParameter text pair.1 pair.2 = .ok parameter := by
  constructor
  · intro spells
    cases spells with
    | @mk name value _ _ parts first token means admits =>
      exact ⟨(name, value), (split_parameter_iff ..).mpr ⟨parts, first⟩,
        (read_parameter_iff ..).mpr ⟨rfl, token, _, means, admits⟩⟩
  · rintro ⟨⟨name, value⟩, split, read⟩
    obtain ⟨parts, first⟩ := (split_parameter_iff ..).mp split
    obtain ⟨key, kept⟩ := parameter
    obtain ⟨rfl, token, meant, means, admits⟩ := (read_parameter_iff ..).mp read
    exact .mk parts first token means admits

theorem SpellsParameter.not_blank {segment : List Char} {parameter : List Char × List Char}
    (spells : SpellsParameter segment parameter) : trim segment ≠ [] := by
  cases spells with
  | mk parts => simp [parts]

/-- Segments spell parameters when they can be split and read one by one, blank ones aside. -/
theorem spells_parameters_iff (text : String) (parts : List (List Char))
    (parameters : List (List Char × List Char)) :
    SpellsParameters parts parameters ↔ ∃ pairs,
      List.Forall₂ (fun part pair => splitParameter? (trim part) = some pair)
        (parts.filter fun part => !(trim part).isEmpty) pairs ∧
      List.Forall₂ (fun pair parameter => readParameter text pair.1 pair.2 = .ok parameter)
        pairs parameters := by
  induction parts generalizing parameters with
  | nil =>
    constructor
    · intro spells
      cases spells
      exact ⟨[], .nil, .nil⟩
    · rintro ⟨pairs, split, read⟩
      cases split
      cases read
      exact .none
  | cons part rest ih =>
    by_cases blank : trim part = []
    · rw [List.filter_cons_of_neg (by simp [blank]), ← ih]
      constructor
      · intro spells
        cases spells with
        | blank _ others => exact others
        | parameter first _ => exact absurd blank first.not_blank
      · exact .blank blank
    · rw [List.filter_cons_of_pos (by simp [blank])]
      constructor
      · intro spells
        cases spells with
        | blank empty _ => exact absurd empty blank
        | parameter first others =>
          obtain ⟨pair, split, read⟩ := (spells_parameter_iff text ..).mp first
          obtain ⟨pairs, splits, reads⟩ := (ih _).mp others
          exact ⟨pair :: pairs, .cons split splits, .cons read reads⟩
      · rintro ⟨_, split, read⟩
        cases split with
        | cons split splits =>
          cases read with
          | cons read reads =>
            have first := (spells_parameter_iff text ..).mpr ⟨_, split, read⟩
            exact .parameter first ((ih _).mpr ⟨_, splits, reads⟩)

theorem names_of_split {parts : List (List Char)} {pairs : List (List Char × List Char)}
    (each : List.Forall₂ (fun part pair => splitParameter? (trim part) = some pair)
      (parts.filter fun part => !(trim part).isEmpty) pairs) :
    parts.filterMap segmentName? = pairs.map fun pair => lower (trim pair.1) := by
  induction parts generalizing pairs with
  | nil =>
    cases each
    rfl
  | cons part rest ih =>
    by_cases blank : trim part = []
    · rw [List.filter_cons_of_neg (by simp [blank])] at each
      have nameless : segmentName? part = none := by simp [segmentName?, blank, splitParameter?]
      rw [List.filterMap_cons_none nameless]
      exact ih each
    · rw [List.filter_cons_of_pos (by simp [blank])] at each
      cases each with
      | cons split others =>
        rw [List.filterMap_cons, segmentName?, split, List.map_cons, ← ih others]
        rfl

theorem names_of_read {text : String} {pairs parameters : List (List Char × List Char)}
    (each : List.Forall₂
      (fun pair parameter => readParameter text pair.1 pair.2 = .ok parameter) pairs parameters) :
    Entries.keys parameters = pairs.map fun pair => lower (trim pair.1) := by
  induction each with
  | nil => rfl
  | @cons pair parameter _ _ read _ ih =>
    have named := ((read_parameter_iff text pair.1 pair.2 parameter.1 parameter.2).mp read).1
    rw [List.map_cons, named, ← ih]
    rfl

theorem read_collected_iff (text : String) {parts : List (List Char)}
    (once : (parts.filterMap segmentName?).Nodup) (kept : List (List Char × List Char)) :
    (∃ gathered, collectParameters text [] parts = .ok gathered ∧
      readParameters text [] gathered = .ok kept) ↔ SpellsParameters parts kept := by
  have distinct : ∀ pairs, List.Forall₂ (fun part pair => splitParameter? (trim part) = some pair)
      (parts.filter fun part => !(trim part).isEmpty) pairs →
        Entries.assignAll pairs [] = pairs ∧ (pairs.map fun pair => lower (trim pair.1)).Nodup := by
    intro pairs split
    have names : (pairs.map fun pair => lower (trim pair.1)).Nodup := names_of_split split ▸ once
    have keys : (Entries.keys pairs).Nodup := by
      apply List.Nodup.of_map (fun name => lower (trim name))
      rwa [Entries.keys, List.map_map]
    exact ⟨Entries.assign_all_distinct keys, names⟩
  simp only [collect_parameters_iff, read_parameters_iff, spells_parameters_iff text]
  constructor
  · rintro ⟨_, ⟨pairs, split, rfl⟩, parameters, read, rfl⟩
    obtain ⟨apart, names⟩ := distinct pairs split
    rw [apart] at read
    rw [Entries.assign_all_distinct (names_of_read read ▸ names)]
    exact ⟨pairs, split, read⟩
  · rintro ⟨pairs, split, read⟩
    obtain ⟨apart, names⟩ := distinct pairs split
    refine ⟨pairs, ⟨pairs, split, apart.symm⟩, kept, read, ?_⟩
    exact (Entries.assign_all_distinct (names_of_read read ▸ names)).symm

end Parameters

section Texts

theorem trim_first_of_blank {s : List Char} (blank : allBlank s = true) :
    trim (segments s).1 = [] := by
  apply trim_of_all_blank
  have joined := join_segments_from .outside s
  rw [← joined, allBlank, joinSegments, List.all_append, Bool.and_eq_true] at blank
  exact blank.1

theorem SpellsTypes.not_blank {segment type subtype : List Char}
    (spells : SpellsTypes segment type subtype) : trim segment ≠ [] := by
  cases spells with
  | all lone => simp [lone, wildcard]
  | pair parts => simp [parts]

theorem SpellsTypes.unique {segment type subtype otherType otherSubtype : List Char}
    (spells : SpellsTypes segment type subtype)
    (same : SpellsTypes segment otherType otherSubtype) :
    type = otherType ∧ subtype = otherSubtype := by
  obtain ⟨_, _, found, _, _, _, rfl, rfl⟩ := (spells_types_iff "" ..).mp spells
  obtain ⟨_, _, again, _, _, _, rfl, rfl⟩ := (spells_types_iff "" ..).mp same
  rw [found] at again
  cases again
  exact ⟨rfl, rfl⟩

section OneText
variable {text : String}

theorem split_types_flawed {segment : List Char} {refusal : Refusal}
    (refused : splitTypes text segment = .error refusal) :
    ∃ flaw, refusal = .flawed text flaw := by
  unfold splitTypes at refused
  dsimp only at refused
  split at refused
  · cases refused
    exact ⟨.noSlash, rfl⟩
  · cases refused
    exact ⟨.noSubtype, rfl⟩
  · cases refused

theorem collect_flawed {collected : List (List Char × List Char)} {parts : List (List Char)}
    {refusal : Refusal} (refused : collectParameters text collected parts = .error refusal) :
    ∃ flaw, refusal = .flawed text flaw := by
  induction parts generalizing collected with
  | nil => cases refused
  | cons part rest ih =>
    rw [collectParameters] at refused
    split at refused
    · exact ih refused
    · split at refused
      · cases refused
        exact ⟨.noValue (trim part), rfl⟩
      · exact ih refused

theorem parse_of_spelled {type subtype : List Char} {gathered : List (List Char × List Char)}
    (types : SpellsTypes (segments text.toList).1 type subtype)
    (collected : collectParameters text [] (segments text.toList).2 = .ok gathered) :
    parse text = (readParameters text [] gathered).map (MediaType.mk type subtype) := by
  have notBlank : allBlank text.toList = false :=
    Bool.eq_false_iff.mpr fun blank => types.not_blank (trim_first_of_blank blank)
  obtain ⟨type, subtype, found, typeToken, subtypeToken, wildcards, rfl, rfl⟩ :=
    (spells_types_iff text ..).mp types
  have whole : ¬ (lower (trim type) = wildcard ∧ lower (trim subtype) ≠ wildcard) :=
    fun part => part.2 (wildcards part.1)
  simp only [parse, parseChars, String.ofList_toList, notBlank, Bool.false_eq_true, ↓reduceIte,
    found, collected, ofComponents, typeToken, subtypeToken, Bool.not_true, if_neg whole]
  cases readParameters text [] gathered <;> rfl

theorem parse_flawed (unspelled : ∀ type subtype gathered,
    SpellsTypes (segments text.toList).1 type subtype →
      collectParameters text [] (segments text.toList).2 ≠ .ok gathered) :
    ∃ flaw, parse text = .error (.flawed text flaw) := by
  simp only [parse, parseChars, String.ofList_toList]
  split
  · exact ⟨.empty, rfl⟩
  · split
    · rename_i refusal found
      obtain ⟨flaw, rfl⟩ := split_types_flawed found
      exact ⟨flaw, rfl⟩
    · rename_i type subtype found
      split
      · rename_i refusal collected
        obtain ⟨flaw, rfl⟩ := collect_flawed collected
        exact ⟨flaw, rfl⟩
      · rename_i gathered collected
        unfold ofComponents
        dsimp only
        split
        · exact ⟨.typeToken type, rfl⟩
        · split
          · exact ⟨.subtypeToken (lower (trim subtype)), rfl⟩
          · split
            · exact ⟨.partWildcard, rfl⟩
            · rename_i typeToken subtypeToken whole
              refine absurd collected (unspelled _ _ gathered ((spells_types_iff text ..).mpr
                ⟨type, subtype, found, by simpa using typeToken, by simpa using subtypeToken, ?_,
                  rfl, rfl⟩))
              exact fun wild => Decidable.byContradiction fun narrow => whole ⟨wild, narrow⟩

theorem parse_spelled_or_flawed (text : String) :
    (∃ type subtype gathered, SpellsTypes (segments text.toList).1 type subtype ∧
      collectParameters text [] (segments text.toList).2 = .ok gathered ∧
      parse text = (readParameters text [] gathered).map (MediaType.mk type subtype)) ∨
    ∃ flaw, parse text = .error (.flawed text flaw) := by
  by_cases spelled : ∃ type subtype gathered,
      SpellsTypes (segments text.toList).1 type subtype ∧
        collectParameters text [] (segments text.toList).2 = .ok gathered
  · obtain ⟨type, subtype, gathered, types, collected⟩ := spelled
    exact Or.inl ⟨type, subtype, gathered, types, collected, parse_of_spelled types collected⟩
  · exact Or.inr (parse_flawed fun type subtype gathered types collected =>
      spelled ⟨type, subtype, gathered, types, collected⟩)

/-- A text is read part by part: its types, the pairs of its other segments, their parameters. -/
theorem parse_ok_iff (m : MediaType) :
    parse text = .ok m ↔ SpellsTypes (segments text.toList).1 m.type m.subtype ∧
      ∃ gathered, collectParameters text [] (segments text.toList).2 = .ok gathered ∧
        readParameters text [] gathered = .ok m.parameters := by
  constructor
  · intro read
    rcases parse_spelled_or_flawed text with
      ⟨type, subtype, gathered, types, collected, parsed⟩ | ⟨flaw, flawed⟩
    · rw [parsed] at read
      cases done : readParameters text [] gathered with
      | error refusal =>
        rw [done] at read
        cases read
      | ok kept =>
        rw [done] at read
        cases read
        exact ⟨types, gathered, collected, done⟩
    · rw [flawed] at read
      cases read
  · rintro ⟨types, gathered, collected, done⟩
    rw [parse_of_spelled types collected, done]
    rfl

end OneText

theorem parse_iff_spells {text : String} (once : NamesOnce text.toList) (m : MediaType) :
    parse text = .ok m ↔ Spells text.toList m := by
  rw [parse_ok_iff, read_collected_iff text once]
  exact ⟨fun ⟨types, parameters⟩ => ⟨types, parameters⟩,
    fun ⟨types, parameters⟩ => ⟨types, parameters⟩⟩

end Texts

/-- Where no name is repeated, a text reads as a media type exactly when its division into segments
spells that media type. -/
theorem parse_iff_spelled {text : String} (once : NamesOnce text.toList) (m : MediaType) :
    parse text = .ok m ↔ ∃ first others, Divides text.toList first others ∧
      SpellsTypes first m.type m.subtype ∧ SpellsParameters others m.parameters := by
  rw [parse_iff_spells once]
  constructor
  · intro spells
    exact ⟨_, _, divides_segments text.toList, spells.types, spells.parameters⟩
  · rintro ⟨first, others, divides, types, parameters⟩
    have split := (divides_iff ..).mp divides
    exact ⟨by rwa [split], by rwa [split]⟩

theorem titled_page_spelled :
    ∃ first others,
      Divides " Text / HTML; Title=\"a\\\";b\"; ;CHARSET='Arabic' ; q=.5".toList first others ∧
      SpellsTypes first "text".toList "html".toList ∧
      SpellsParameters others [("title".toList, "a\";b".toList),
        ("charset".toList, "arabic".toList), ("q".toList, ".5".toList)] := by
  have once : NamesOnce " Text / HTML; Title=\"a\\\";b\"; ;CHARSET='Arabic' ; q=.5".toList := by
    unfold NamesOnce
    decide +kernel
  have read : parse " Text / HTML; Title=\"a\\\";b\"; ;CHARSET='Arabic' ; q=.5" =
      .ok ⟨"text".toList, "html".toList, [("title".toList, "a\";b".toList),
        ("charset".toList, "arabic".toList), ("q".toList, ".5".toList)]⟩ := by
    decide +kernel
  exact (parse_iff_spelled once _).mp read

end HandlerRouting.MediaType
