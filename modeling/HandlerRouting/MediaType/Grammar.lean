import HandlerRouting.MediaType.Reader

/-!
The grammar of media types: which texts spell one, and which one they spell. It says what a text
has to look like and not how it is read, and speaks of texts that name no parameter twice.
-/

namespace HandlerRouting.MediaType

open Text

def isQuoteMark (c : Char) : Prop := c = '"' ∨ c = '\''

/-- A value means the content of its quotes, or else itself if it is a token. -/
inductive Means : List Char → List Char → Prop where
  | quotes {mark : Char} (content : List Char) (known : isQuoteMark mark) :
      Means (mark :: content ++ [mark]) (unescapeQuotes content)
  | token {value : List Char} (token : isToken value = true)
      (bare : ∀ mark content, isQuoteMark mark → value ≠ mark :: content ++ [mark]) :
      Means value value

/-- Which meanings the charset and the quality parameter may have, and what is kept of them. -/
inductive Admits : List Char → List Char → List Char → Prop where
  | charset {value : List Char} (readable : '\x00' ∉ value) (known : isKnownCharset value = true) :
      Admits charsetName value (lower value)
  | quality {value : List Char} {numeral : Numeral} {x : Binary64}
      (read : qualityOf? value = some numeral) (number : numeral.value? = some x)
      (range : isQuality x = true) : Admits qualityName value value
  | other {name value : List Char} (notCharset : name ≠ charsetName)
      (notQuality : name ≠ qualityName) : Admits name value value

/-- The first segment: a lone star, or two tokens around its first slash. -/
inductive SpellsTypes : List Char → List Char → List Char → Prop where
  | all {segment : List Char} (lone : trim segment = wildcard) :
      SpellsTypes segment wildcard wildcard
  | pair {segment type subtype : List Char} (parts : trim segment = type ++ '/' :: subtype)
      (first : '/' ∉ type) (more : subtype ≠ [])
      (typeToken : isToken (lower (trim type)) = true)
      (subtypeToken : isToken (lower (trim subtype)) = true)
      (wildcards : lower (trim type) = wildcard → lower (trim subtype) = wildcard) :
      SpellsTypes segment (lower (trim type)) (lower (trim subtype))

/-- Another segment: a name and a value around its first equals sign. -/
inductive SpellsParameter : List Char → List Char × List Char → Prop where
  | mk {segment name value meant kept : List Char}
      (parts : trim segment = name ++ '=' :: value) (first : '=' ∉ name)
      (token : isToken (lower (trim name)) = true) (means : Means (trim value) meant)
      (admits : Admits (lower (trim name)) meant kept) :
      SpellsParameter segment (lower (trim name), kept)

/-- The segments after the first one, in order; blank ones say nothing. -/
inductive SpellsParameters : List (List Char) → List (List Char × List Char) → Prop where
  | none : SpellsParameters [] []
  | blank {segment : List Char} {rest : List (List Char)}
      {parameters : List (List Char × List Char)} (empty : trim segment = [])
      (others : SpellsParameters rest parameters) : SpellsParameters (segment :: rest) parameters
  | parameter {segment : List Char} {rest : List (List Char)} {pair : List Char × List Char}
      {parameters : List (List Char × List Char)} (first : SpellsParameter segment pair)
      (others : SpellsParameters rest parameters) :
      SpellsParameters (segment :: rest) (pair :: parameters)

structure Spells (s : List Char) (m : MediaType) : Prop where
  types : SpellsTypes (segments s).1 m.type m.subtype
  parameters : SpellsParameters (segments s).2 m.parameters

def segmentName? (segment : List Char) : Option (List Char) :=
  (splitParameter? (trim segment)).map fun (name, _) => lower (trim name)

/-- No two segments name the same parameter, capitals and blanks aside. -/
def NamesOnce (s : List Char) : Prop := ((segments s).2.filterMap segmentName?).Nodup

theorem quoted_content_iff (value content : List Char) :
    quotedContent? value = some content ↔
      ∃ mark, isQuoteMark mark ∧ value = mark :: content ++ [mark] := by
  cases value with
  | nil => simp [quotedContent?]
  | cons mark rest =>
    simp only [quotedContent?, Option.ite_none_right_eq_some, Option.some.injEq]
    constructor
    · rintro ⟨⟨known, last⟩, rfl⟩
      obtain ⟨content, rfl⟩ := List.getLast?_eq_some_iff.mp last
      exact ⟨mark, known, by simp⟩
    · rintro ⟨other, known, same⟩
      simp only [List.cons_append, List.cons.injEq] at same
      obtain ⟨rfl, rfl⟩ := same
      exact ⟨⟨known, by simp⟩, by simp⟩

theorem read_value_iff (value meant : List Char) :
    readValue? value = some meant ↔ Means value meant := by
  constructor
  · intro read
    unfold readValue? at read
    split at read
    · rename_i content quoted
      obtain ⟨mark, known, rfl⟩ := (quoted_content_iff value content).mp quoted
      cases read
      exact .quotes content known
    · rename_i bare
      split at read
      · rename_i token
        cases read
        refine .token token fun mark content known same => ?_
        have quoted := (quoted_content_iff value content).mpr ⟨mark, known, same⟩
        rw [bare] at quoted
        cases quoted
      · cases read
  · intro means
    cases means with
    | quotes content known =>
      unfold readValue?
      rw [(quoted_content_iff _ content).mpr ⟨_, known, rfl⟩]
    | token token bare =>
      cases quoted : quotedContent? value with
      | none => simp [readValue?, quoted, token]
      | some content =>
        obtain ⟨mark, known, same⟩ := (quoted_content_iff value content).mp quoted
        exact absurd same (bare mark content known)

end HandlerRouting.MediaType
