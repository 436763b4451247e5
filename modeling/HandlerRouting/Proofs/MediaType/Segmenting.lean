import HandlerRouting.MediaType.Segments

/-!
Splitting a text that is put together from parts: which parts stay whole, and where the reading
stands behind each.
-/

namespace HandlerRouting.MediaType

theorem segments_from_separator (rest : List Char) :
    segmentsFrom .outside (';' :: rest) = ([], (segments rest).1 :: (segments rest).2) := rfl

theorem segments_from_cons {position : Position} {c : Char}
    (goesOn : ¬ (c = ';' ∧ position = .outside)) (rest : List Char) :
    segmentsFrom position (c :: rest) =
      (c :: (segmentsFrom (position.after c) rest).1,
        (segmentsFrom (position.after c) rest).2) := by
  rw [segmentsFrom, if_neg goesOn]

theorem after_text_cons (position : Position) (c : Char) (rest : List Char) :
    position.afterText (c :: rest) = (position.after c).afterText rest := rfl

theorem after_text_append (position : Position) (part rest : List Char) :
    position.afterText (part ++ rest) = (position.afterText part).afterText rest :=
  List.foldl_append

/-- A part without a split of its own goes into the first segment, and the reading goes on behind
it from where it ends. -/
theorem segments_from_append {position : Position} {part : List Char}
    (whole : (segmentsFrom position part).2 = []) (rest : List Char) :
    segmentsFrom position (part ++ rest) =
      (part ++ (segmentsFrom (position.afterText part) rest).1,
        (segmentsFrom (position.afterText part) rest).2) := by
  induction part generalizing position with
  | nil => rfl
  | cons c part ih =>
    by_cases separates : c = ';' ∧ position = .outside
    · obtain ⟨rfl, rfl⟩ := separates
      cases whole
    · rw [segments_from_cons separates] at whole
      rw [List.cons_append, segments_from_cons separates, ih whole]
      rfl

theorem segments_append {part : List Char} (whole : (segments part).2 = [])
    (outside : Position.outside.afterText part = .outside) (rest : List Char) :
    segments (part ++ rest) = (part ++ (segments rest).1, (segments rest).2) := by
  have split := segments_from_append whole rest
  rwa [outside] at split

theorem segments_from_whole {position : Position} {part : List Char} (plain : ';' ∉ part) :
    (segmentsFrom position part).2 = [] := by
  induction part generalizing position with
  | nil => rfl
  | cons c part ih =>
    simp only [List.mem_cons, not_or] at plain
    rw [segments_from_cons fun separates => plain.1 separates.1.symm]
    exact ih plain.2

theorem after_text_unquoted {part : List Char} (plain : '"' ∉ part) :
    Position.outside.afterText part = .outside := by
  induction part with
  | nil => rfl
  | cons c part ih =>
    simp only [List.mem_cons, not_or] at plain
    have stays : Position.outside.after c = .outside := if_neg (Ne.symm plain.1)
    rw [after_text_cons, stays]
    exact ih plain.2

theorem segments_from_first {position : Position} {part rest : List Char}
    {others : List (List Char)} (split : segmentsFrom position (part ++ rest) = (part, others)) :
    (segmentsFrom position part).2 = [] ∧
      (rest = [] ∧ others = [] ∨ ∃ text, rest = ';' :: text ∧
        position.afterText part = .outside ∧ others = (segments text).1 :: (segments text).2) := by
  induction part generalizing position with
  | nil =>
    refine ⟨rfl, ?_⟩
    cases rest with
    | nil =>
      cases split
      exact Or.inl ⟨rfl, rfl⟩
    | cons c text =>
      by_cases separates : c = ';' ∧ position = .outside
      · obtain ⟨rfl, rfl⟩ := separates
        cases split
        exact Or.inr ⟨text, rfl, rfl, rfl⟩
      · rw [List.nil_append, segments_from_cons separates] at split
        cases split
  | cons c part ih =>
    by_cases separates : c = ';' ∧ position = .outside
    · obtain ⟨rfl, rfl⟩ := separates
      cases split
    · rw [List.cons_append, segments_from_cons separates] at split
      simp only [Prod.mk.injEq, List.cons.injEq, true_and] at split
      rw [segments_from_cons separates]
      exact ih (Prod.ext split.1 split.2)

end HandlerRouting.MediaType
