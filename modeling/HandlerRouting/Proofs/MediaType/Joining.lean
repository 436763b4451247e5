import HandlerRouting.Proofs.MediaType.Dividing

/-!
Splitting is the inverse of joining. The segments of a text are the only parts that give the text
when they are joined, have no semicolon outside quotes, and leave no quotes open before the last.
-/

namespace HandlerRouting.MediaType

theorem Balanced.append {front back : List Char} (first : Balanced front)
    (second : Balanced back) : Balanced (front ++ back) := by
  induction first with
  | nil => exact second
  | plain notQuote _ ih => exact .plain notQuote ih
  | quotes inside _ ih => simpa using Balanced.quotes inside ih

theorem ClosedText.balanced {part : List Char} (closed : ClosedText part) : Balanced part := by
  induction closed with
  | nil => exact .nil
  | plain _ notQuote _ ih => exact .plain notQuote ih
  | quotes inside _ ih => exact .quotes inside ih

theorem Balanced.scan {s : List Char} (balanced : Balanced s) :
    Position.outside.afterText s = .outside := by
  induction balanced with
  | nil => rfl
  | @plain c rest notQuote _ ih =>
    have stays : Position.outside.after c = .outside := if_neg notQuote
    rw [after_text_cons, stays]
    exact ih
  | quotes inside _ ih =>
    rw [after_text_cons, after_text_append]
    show (Position.inside.afterText _).afterText _ = _
    rw [inside.scan.2]
    exact ih

theorem OpenQuotes.ends_within {tail : List Char} (quotes : OpenQuotes tail) :
    Position.outside.afterText tail ≠ .outside := by
  cases quotes with
  | quotes inside =>
    rw [after_text_cons]
    show Position.inside.afterText _ ≠ _
    rw [inside.scan.2]
    decide
  | backslash inside =>
    rw [after_text_cons, after_text_append]
    show (Position.inside.afterText _).afterText _ ≠ _
    rw [inside.scan.2]
    decide

/-- Whether quotes are closed can be seen from the segments: all but the last are closed, so the
last one decides. -/
theorem Divides.balanced {s first : List Char} {others : List (List Char)}
    (divides : Divides s first others) (ends : Position.outside.afterText s = .outside) :
    Balanced s := by
  induction divides with
  | whole closed => exact closed.balanced
  | unclosed closed quotes =>
    rw [after_text_append, closed.scan.2] at ends
    exact absurd ends quotes.ends_within
  | split closed _ ih =>
    rw [after_text_append, closed.scan.2, after_text_cons] at ends
    exact closed.balanced.append (.plain (by decide) (ih ends))

theorem balanced_iff (s : List Char) :
    Balanced s ↔ Position.outside.afterText s = .outside :=
  ⟨Balanced.scan, (divides_segments s).balanced⟩

theorem segments_from_whole_iff (position : Position) (part : List Char) :
    (segmentsFrom position part).2 = [] ↔
      ∀ front back, part = front ++ ';' :: back → position.afterText front ≠ .outside := by
  induction part generalizing position with
  | nil => simp [segmentsFrom]
  | cons c rest ih =>
    by_cases separates : c = ';' ∧ position = .outside
    · obtain ⟨rfl, rfl⟩ := separates
      constructor
      · intro whole
        cases whole
      · intro hidden
        exact absurd rfl (hidden [] rest rfl)
    · rw [segments_from_cons separates, ih]
      constructor
      · intro hidden front back split
        cases front with
        | nil =>
          rw [List.nil_append, List.cons.injEq] at split
          exact fun outside => separates ⟨split.1, outside⟩
        | cons d front =>
          rw [List.cons_append, List.cons.injEq] at split
          obtain ⟨rfl, split⟩ := split
          exact hidden front back split
      · intro hidden front back split
        exact hidden (c :: front) back (by rw [split, List.cons_append])

theorem undivided_iff (part : List Char) : Undivided part ↔ (segments part).2 = [] := by
  simp only [Undivided, balanced_iff, segments, segments_from_whole_iff, ne_eq]

theorem segments_join {first : List Char} {others : List (List Char)}
    (undivided : ∀ part ∈ first :: others, Undivided part)
    (balanced : ∀ part ∈ (first :: others).dropLast, Balanced part) :
    segments (joinSegments first others) = (first, others) := by
  induction others generalizing first with
  | nil =>
    rw [joinSegments, List.flatMap_nil, List.append_nil]
    exact segments_of_whole ((undivided_iff first).mp (undivided first List.mem_cons_self))
  | cons next others ih =>
    obtain ⟨here, behind⟩ := List.forall_mem_cons.mp undivided
    rw [List.dropLast_cons_cons] at balanced
    obtain ⟨closed, further⟩ := List.forall_mem_cons.mp balanced
    have joined : joinSegments first (next :: others) =
        first ++ ';' :: joinSegments next others := by
      simp [joinSegments]
    rw [joined, segments_append ((undivided_iff first).mp here) closed.scan, segments,
      segments_from_separator, ih behind further, List.append_nil]

theorem ClosedText.undivided {part : List Char} (closed : ClosedText part) : Undivided part :=
  (undivided_iff part).mpr closed.scan.1

theorem Divides.undivided {s first : List Char} {others : List (List Char)}
    (divides : Divides s first others) : ∀ part ∈ first :: others, Undivided part := by
  induction divides with
  | whole closed => simpa using closed.undivided
  | unclosed closed quotes =>
    simp only [List.mem_singleton, forall_eq]
    rw [undivided_iff, segments_append closed.scan.1 closed.scan.2]
    exact quotes.scan
  | split closed _ ih => exact List.forall_mem_cons.mpr ⟨closed.undivided, ih⟩

theorem Divides.balanced_before_last {s first : List Char} {others : List (List Char)}
    (divides : Divides s first others) : ∀ part ∈ (first :: others).dropLast, Balanced part := by
  induction divides with
  | whole => simp
  | unclosed => simp
  | split closed _ ih =>
    rw [List.dropLast_cons_cons]
    exact List.forall_mem_cons.mpr ⟨closed.balanced, ih⟩

/-- The segments of a text give it back when they are joined. No semicolon in them stands outside
quotes, and all but the last close their quotes; no other parts of the text are like that. -/
theorem segments_iff_joined (s first : List Char) (others : List (List Char)) :
    segments s = (first, others) ↔
      joinSegments first others = s ∧ (∀ part ∈ first :: others, Undivided part) ∧
        ∀ part ∈ (first :: others).dropLast, Balanced part := by
  constructor
  · intro split
    have divides := (divides_iff s first others).mpr split
    have joined := join_segments_from .outside s
    rw [show segmentsFrom .outside s = (first, others) from split] at joined
    exact ⟨joined, divides.undivided, divides.balanced_before_last⟩
  · rintro ⟨rfl, undivided, balanced⟩
    exact segments_join undivided balanced

end HandlerRouting.MediaType
