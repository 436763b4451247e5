import HandlerRouting.MediaType.Written
import HandlerRouting.Proofs.MediaType.Reading

/-!
Values between writing and reading: what a written value means, and which characters occur equally
often in a value, its written form and what is kept of it.
-/

namespace HandlerRouting.MediaType

open Text

theorem escape_begins_unquoted (s rest : List Char) : escapeQuotes s ≠ '"' :: rest := by
  cases s with
  | nil => simp [escapeQuotes]
  | cons c s =>
    rw [escapeQuotes]
    split
    · simp
    · rename_i unquoted
      simp [unquoted]

theorem unescape_escape (s : List Char) : unescapeQuotes (escapeQuotes s) = s := by
  induction s with
  | nil => rfl
  | cons c s ih =>
    by_cases quote : c = '"'
    · subst quote
      simp [escapeQuotes, unescapeQuotes, ih]
    · rw [escapeQuotes, if_neg quote, unescapeQuotes, ih]
      -- A backslash of the text itself never stands before an escaped text's first quote.
      intro rest _ begins
      exact escape_begins_unquoted s rest begins

theorem count_escape {d : Char} (other : d ≠ '\\') (s : List Char) :
    (escapeQuotes s).count d = s.count d := by
  induction s with
  | nil => rfl
  | cons c rest ih =>
    rw [escapeQuotes]
    split
    · rename_i quote
      simp [List.count_cons, ih, quote, Ne.symm other]
    · simp [List.count_cons, ih]

theorem count_unescape {d : Char} (other : d ≠ '\\') (s : List Char) :
    (unescapeQuotes s).count d = s.count d := by
  fun_induction unescapeQuotes s with
  | case1 rest ih => simp [List.count_cons, ih, Ne.symm other]
  | case2 c rest _ ih => simp [List.count_cons, ih]
  | case3 => rfl

theorem write_value_quoted {value : List Char} (notToken : ¬ isToken value = true) :
    writeValue value = '"' :: escapeQuotes value ++ ['"'] := if_neg notToken

section Counting
variable {d : Char} (other : d ≠ '\\') (unquoted : d ≠ '"')
include other unquoted

theorem count_write_value (value : List Char) : (writeValue value).count d = value.count d := by
  by_cases token : isToken value = true
  · rw [write_value_token token]
  · rw [write_value_quoted token]
    simp [count_escape other, Ne.symm unquoted]

theorem mem_write_value_iff (value : List Char) : d ∈ writeValue value ↔ d ∈ value := by
  rw [← List.count_pos_iff, count_write_value other unquoted, List.count_pos_iff]

end Counting

theorem trim_end_write_value (value : List Char) :
    trimEnd (writeValue value) = writeValue value := by
  by_cases token : isToken value = true
  · rw [write_value_token token, trim_end_of_solid (token_solid token)]
  · rw [write_value_quoted token, trim_end_append_cons (by decide)]
    rfl

theorem trim_write_value (value : List Char) : trim (writeValue value) = writeValue value := by
  by_cases token : isToken value = true
  · rw [write_value_token token, trim_token token]
  · rw [write_value_quoted token, List.cons_append, trim_cons (by decide),
      trim_end_append_cons (by decide)]
    rfl

theorem Means.unique {value meant other : List Char} (means : Means value meant)
    (again : Means value other) : meant = other := by
  rw [← read_value_iff] at means again
  exact Option.some.inj (means.symm.trans again)

theorem means_written {value : List Char}
    (bare : isToken value = true → quotedContent? value = none) :
    Means (writeValue value) value := by
  rw [← read_value_iff]
  by_cases token : isToken value = true
  · rw [write_value_token token, readValue?, bare token]
    exact if_pos token
  · rw [read_value_iff, write_value_quoted token]
    have means := Means.quotes (escapeQuotes value) (Or.inl rfl : isQuoteMark '"')
    rwa [unescape_escape] at means

theorem Means.count_semicolon {value meant : List Char} (means : Means value meant) :
    meant.count ';' = value.count ';' := by
  cases means with
  | quotes content known =>
    rw [count_unescape (by decide)]
    rcases known with rfl | rfl <;> simp
  | token => rfl

theorem bare_of_count {value meant : List Char} (means : Means (writeValue value) meant)
    (same : meant.count '\'' = value.count '\'') (token : isToken value = true) :
    quotedContent? value = none := by
  cases quoted : quotedContent? value with
  | none => rfl
  | some content =>
    obtain ⟨mark, known, rfl⟩ := (quoted_content_iff ..).mp quoted
    have apostrophe : mark = '\'' :=
      known.resolve_left fun double => not_mem_token (d := '"') (by decide) token (by simp [double])
    rw [write_value_token token] at means
    rw [means.unique (.quotes content known), count_unescape (by decide)] at same
    have more : (mark :: content ++ [mark]).count '\'' = content.count '\'' + 2 := by
      simp [apostrophe]
    omega

theorem Admits.count {d : Char} (early : d.toNat < 'A'.toNat) {name meant kept : List Char}
    (admits : Admits name meant kept) : kept.count d = meant.count d := by
  cases admits with
  | charset => exact count_lower early meant
  | quality => rfl
  | other => rfl

end HandlerRouting.MediaType
