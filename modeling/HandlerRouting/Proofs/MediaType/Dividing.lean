import HandlerRouting.MediaType.Division
import HandlerRouting.Proofs.MediaType.Segmenting

/-!
The scanner divides every text as the grammar of quotes says, and there is no other division.
-/

namespace HandlerRouting.MediaType

section Parts

theorem QuotedText.append {front back : List Char} (first : QuotedText front)
    (second : QuotedText back) : QuotedText (front ++ back) := by
  induction first with
  | nil => exact second
  | plain notQuote notBackslash _ ih => exact .plain notQuote notBackslash ih
  | hidden _ ih => exact .hidden ih

theorem ClosedText.append {front back : List Char} (first : ClosedText front)
    (second : ClosedText back) : ClosedText (front ++ back) := by
  induction first with
  | nil => exact second
  | plain notSemicolon notQuote _ ih => exact .plain notSemicolon notQuote ih
  | quotes inside _ ih => simpa using ClosedText.quotes inside ih

theorem QuotedText.scan {content : List Char} (inside : QuotedText content) :
    (segmentsFrom .inside content).2 = [] ∧ Position.inside.afterText content = .inside := by
  induction inside with
  | nil => exact ⟨rfl, rfl⟩
  | plain notQuote notBackslash _ ih =>
    have stays : ∀ c, c ≠ '"' → c ≠ '\\' → Position.inside.after c = .inside := by
      intro c notQuote notBackslash
      simp [Position.after, notQuote, notBackslash]
    rw [segments_from_cons (by simp), after_text_cons, stays _ notQuote notBackslash]
    exact ih
  | hidden _ ih =>
    rw [segments_from_cons (by simp), segments_from_cons (by simp [Position.after])]
    exact ih

theorem ClosedText.scan {part : List Char} (closed : ClosedText part) :
    (segments part).2 = [] ∧ Position.outside.afterText part = .outside := by
  induction closed with
  | nil => exact ⟨rfl, rfl⟩
  | @plain c rest notSemicolon notQuote _ ih =>
    have stays : Position.outside.after c = .outside := if_neg notQuote
    rw [segments, segments_from_cons fun separates => notSemicolon separates.1, after_text_cons,
      stays]
    exact ih
  | @quotes content rest inside _ ih =>
    obtain ⟨whole, ends⟩ := inside.scan
    have read : segmentsFrom .inside (content ++ '"' :: rest) =
        (content ++ '"' :: (segments rest).1, (segments rest).2) := by
      rw [segments_from_append whole, ends, segments_from_cons (by simp)]
      rfl
    rw [segments, segments_from_cons (by simp), after_text_cons, after_text_append]
    show (segmentsFrom .inside _).2 = [] ∧ (Position.inside.afterText content).afterText _ = _
    rw [read, ends]
    exact ih

theorem OpenQuotes.scan {tail : List Char} (quotes : OpenQuotes tail) :
    (segments tail).2 = [] := by
  cases quotes with
  | quotes inside =>
    rw [segments, segments_from_cons (by simp)]
    exact inside.scan.1
  | backslash inside =>
    obtain ⟨whole, ends⟩ := inside.scan
    rw [segments, segments_from_cons (by simp)]
    show (segmentsFrom .inside _).2 = []
    rw [segments_from_append whole, ends]
    rfl

theorem segments_of_whole {part : List Char} (whole : (segments part).2 = []) :
    segments part = (part, []) := by
  have joined := join_segments_from .outside part
  rw [joinSegments, show (segmentsFrom .outside part).2 = [] from whole, List.flatMap_nil,
    List.append_nil] at joined
  exact Prod.ext joined whole

end Parts

theorem segments_of_divides {s first : List Char} {others : List (List Char)}
    (divides : Divides s first others) : segments s = (first, others) := by
  induction divides with
  | whole closed => exact segments_of_whole closed.scan.1
  | unclosed closed quotes =>
    obtain ⟨whole, ends⟩ := closed.scan
    apply segments_of_whole
    rw [segments_append whole ends]
    exact quotes.scan
  | @split part rest _ _ closed _ ih =>
    obtain ⟨whole, ends⟩ := closed.scan
    rw [segments_append whole ends, segments, segments_from_separator, ih, List.append_nil]

/-- What has been read of a segment where the reading stands. -/
def Position.Read : Position → List Char → Prop
  | .outside, part => ClosedText part
  | .inside, part => ∃ front content, ClosedText front ∧ QuotedText content ∧
      part = front ++ '"' :: content
  | .escaped, part => ∃ front content, ClosedText front ∧ QuotedText content ∧
      part = front ++ '"' :: (content ++ ['\\'])

theorem Position.Read.step {position : Position} {part : List Char} {c : Char}
    (read : position.Read part) (goesOn : ¬ (c = ';' ∧ position = .outside)) :
    (position.after c).Read (part ++ [c]) := by
  cases position with
  | outside =>
    have notSemicolon : c ≠ ';' := fun same => goesOn ⟨same, rfl⟩
    by_cases quote : c = '"'
    · subst quote
      exact ⟨part, [], read, .nil, rfl⟩
    · rw [Position.after, if_neg quote]
      exact ClosedText.append read (.plain notSemicolon quote .nil)
  | inside =>
    obtain ⟨front, content, closed, inside, rfl⟩ := read
    by_cases backslash : c = '\\'
    · subst backslash
      exact ⟨front, content, closed, inside, by simp⟩
    · by_cases quote : c = '"'
      · subst quote
        have whole := closed.append (.quotes inside .nil)
        simpa [Position.after, Position.Read] using whole
      · rw [Position.after, if_neg backslash, if_neg quote]
        exact ⟨front, content ++ [c], closed, inside.append (.plain quote backslash .nil), by simp⟩
  | escaped =>
    obtain ⟨front, content, closed, inside, rfl⟩ := read
    exact ⟨front, content ++ ['\\', c], closed, inside.append (.hidden .nil), by simp⟩

theorem Position.Read.divides {position : Position} {part : List Char}
    (read : position.Read part) (rest : List Char) :
    Divides (part ++ rest) (part ++ (segmentsFrom position rest).1)
      (segmentsFrom position rest).2 := by
  induction rest generalizing position part with
  | nil =>
    simp only [segmentsFrom, List.append_nil]
    cases position with
    | outside => exact .whole read
    | inside =>
      obtain ⟨front, content, closed, inside, rfl⟩ := read
      exact .unclosed closed (.quotes inside)
    | escaped =>
      obtain ⟨front, content, closed, inside, rfl⟩ := read
      exact .unclosed closed (.backslash inside)
  | cons c rest ih =>
    by_cases separates : c = ';' ∧ position = .outside
    · obtain ⟨rfl, rfl⟩ := separates
      rw [segments_from_separator, List.append_nil]
      have start : Position.outside.Read [] := .nil
      exact .split read (ih start)
    · rw [segments_from_cons separates]
      simpa using ih (read.step separates)

theorem divides_segments (s : List Char) : Divides s (segments s).1 (segments s).2 := by
  have start : Position.outside.Read [] := .nil
  exact start.divides s

/-- The segments that the scanner finds are the only ones. -/
theorem divides_iff (s first : List Char) (others : List (List Char)) :
    Divides s first others ↔ segments s = (first, others) := by
  constructor
  · exact segments_of_divides
  · intro split
    have divides := divides_segments s
    rwa [split] at divides

end HandlerRouting.MediaType
