import HandlerRouting.MediaType.Sharing
import HandlerRouting.Proofs.MediaType.Checked

/-!
Subtypes and their suffixes. Two subtypes meet when they include a common one, and then one of them
includes a concrete sample of the other.
-/

namespace HandlerRouting.MediaType

open Text

section Suffixes

theorem suffix_of_append {suffix : List Char} (absent : '+' ∉ suffix) (more : suffix ≠ [])
    (front : List Char) : suffixOf (front ++ '+' :: suffix) = some suffix := by
  have taken : (front ++ '+' :: suffix).reverse.takeWhile (· ≠ '+') = suffix.reverse := by
    rw [List.reverse_append, List.reverse_cons, List.append_assoc]
    exact take_to_mark (by simpa using absent) front.reverse
  unfold suffixOf
  rw [taken]
  simp [more]

theorem suffix_of_iff (subtype suffix : List Char) :
    suffixOf subtype = some suffix ↔
      (∃ front, subtype = front ++ '+' :: suffix) ∧ '+' ∉ suffix ∧ suffix ≠ [] := by
  constructor
  · intro found
    have plus : '+' ∈ subtype := by
      apply Decidable.byContradiction
      intro absent
      simp [suffixOf, absent] at found
    -- The first plus sign from behind is the last one.
    obtain ⟨back, front, parts, absent⟩ := List.eq_append_cons_of_mem (List.mem_reverse.mpr plus)
    have whole : subtype = front.reverse ++ '+' :: back.reverse := by
      simpa using congrArg List.reverse parts
    have more : back ≠ [] := by
      rintro rfl
      simp [suffixOf, whole] at found
    rw [whole, suffix_of_append (by simpa using absent) (by simpa using more)] at found
    cases found
    exact ⟨⟨front.reverse, whole⟩, by simpa using absent, by simpa using more⟩
  · rintro ⟨⟨front, rfl⟩, absent, more⟩
    exact suffix_of_append absent more front

theorem suffix_of_suffix {subtype suffix : List Char} (found : suffixOf subtype = some suffix)
    (further : List Char) : suffixOf suffix ≠ some further := by
  intro again
  obtain ⟨_, absent, _⟩ := (suffix_of_iff ..).mp found
  obtain ⟨⟨front, rfl⟩, _⟩ := (suffix_of_iff ..).mp again
  exact absent (by simp)

theorem wildcard_subtype_iff (subtype : List Char) :
    isWildcardSubtype subtype = true ↔
      subtype = wildcard ∨ ∃ rest, subtype = '*' :: '+' :: rest := by
  unfold isWildcardSubtype
  split <;> simp_all [wildcard]

theorem wildcard_unlimited : IsUnlimited wildcard := ⟨by decide, by decide⟩

-- A suffix has no plus sign, and every wildcard but the one alone has one.
theorem suffix_not_wild {subtype broad suffix : List Char} (found : suffixOf broad = some suffix)
    (wild : isWildcardSubtype subtype = true) (other : subtype ≠ wildcard) : subtype ≠ suffix := by
  rintro rfl
  obtain ⟨_, absent, _⟩ := (suffix_of_iff ..).mp found
  rcases (wildcard_subtype_iff subtype).mp wild with alone | ⟨rest, rfl⟩
  · exact other alone
  · exact absent (by simp)

end Suffixes

section Asking
variable {a b : List Char}

/-- A wildcard with a suffix asks for the subtype that is the suffix and for those that have it. -/
def AsksFor (broad narrow : List Char) : Prop :=
  ∃ suffix, isWildcardSubtype broad = true ∧ suffixOf broad = some suffix ∧
    (narrow = suffix ∨ suffixOf narrow = some suffix)

theorem AsksFor.limited (asks : AsksFor a b) :
    isWildcardSubtype a = true ∧ (suffixOf a).isSome = true := by
  obtain ⟨suffix, wild, found, _⟩ := asks
  exact ⟨wild, by simp [found]⟩

theorem AsksFor.swap (asks : AsksFor b a) (wild : isWildcardSubtype a = true)
    (other : a ≠ wildcard) : AsksFor a b := by
  obtain ⟨suffix, _, found, same | has⟩ := asks
  · exact absurd same (suffix_not_wild found wild other)
  · exact ⟨suffix, wild, has, Or.inr found⟩

theorem AsksFor.not_unlimited (asks : AsksFor a b) :
    ¬ IsUnlimited a ∧ (b ≠ wildcard → ¬ IsUnlimited b) := by
  obtain ⟨suffix, _, found, has⟩ := asks
  constructor
  · intro unlimited
    rw [unlimited.unending] at found
    cases found
  · intro other unlimited
    rcases has with same | has
    · exact suffix_not_wild found unlimited.wild other same
    · rw [unlimited.unending] at has
      cases has

theorem unlimited_includes {broad : List Char} (unlimited : IsUnlimited broad)
    (narrow : List Char) : subtypeIncludes broad narrow = true := by
  simp [subtypeIncludes, unlimited.wild, unlimited.unending]

theorem subtype_includes_iff (broad narrow : List Char) :
    subtypeIncludes broad narrow = true ↔
      broad = narrow ∨ IsUnlimited broad ∨ AsksFor broad narrow := by
  cases wild : isWildcardSubtype broad with
  | false =>
    have limited : ¬ IsUnlimited broad := fun unlimited => by simp [unlimited.wild] at wild
    simp [subtypeIncludes, AsksFor, wild, limited]
  | true =>
    cases found : suffixOf broad with
    | none => simp [unlimited_includes ⟨wild, found⟩, IsUnlimited.mk wild found]
    | some suffix =>
      have limited : ¬ IsUnlimited broad := fun unlimited => by simp [unlimited.unending] at found
      simp [subtypeIncludes, AsksFor, wild, found, limited]

theorem subtypes_overlap_iff (a b : List Char) :
    subtypesOverlap a b = true ↔
      a = b ∨ a = wildcard ∨ b = wildcard ∨ AsksFor a b ∨ AsksFor b a := by
  by_cases same : a = b
  · simp [subtypesOverlap, same]
  by_cases alone : a = wildcard ∨ b = wildcard
  · rcases alone with rfl | rfl <;> simp [subtypesOverlap, isWildcardSubtype, wildcard]
  rw [not_or] at alone
  simp only [same, alone, false_or]
  by_cases first : isWildcardSubtype a = true ∧ (suffixOf a).isSome = true
  · -- The suffix of the first one decides, and what the second one asks for is no more.
    obtain ⟨wild, some⟩ := first
    obtain ⟨suffix, found⟩ := Option.isSome_iff_exists.mp some
    have asks : subtypesOverlap a b = true ↔ AsksFor a b := by
      simp [subtypesOverlap, AsksFor, same, alone, wild, found, @eq_comm _ suffix b]
    rw [asks]
    exact ⟨Or.inl, fun either => either.elim id fun back => back.swap wild alone.1⟩
  · rw [or_iff_right (mt AsksFor.limited first)]
    by_cases second : isWildcardSubtype b = true ∧ (suffixOf b).isSome = true
    · obtain ⟨wild, some⟩ := second
      obtain ⟨suffix, found⟩ := Option.isSome_iff_exists.mp some
      cases wildToo : isWildcardSubtype a with
      | false => simp [subtypesOverlap, AsksFor, same, alone, wild, found, wildToo]
      | true =>
        have unending : suffixOf a = none := by simpa [wildToo] using first
        simp [subtypesOverlap, AsksFor, same, alone, wild, found, wildToo, unending]
    · simp only [mt AsksFor.limited second, iff_false, subtypesOverlap]
      repeat' split
      all_goals simp_all

end Asking

section Samples

def sampleSubtype (subtype : List Char) : List Char :=
  if isWildcardSubtype subtype then
    match suffixOf subtype with
    | none => ['x']
    | some suffix => 'x' :: '+' :: suffix
  else subtype

theorem sample_subtype_concrete (subtype : List Char) :
    isWildcardSubtype (sampleSubtype subtype) = false := by
  unfold sampleSubtype
  split
  · split <;> rfl
  · simp_all

theorem sample_subtype_included (subtype : List Char) :
    subtypeIncludes subtype (sampleSubtype subtype) = true := by
  rw [subtype_includes_iff]
  unfold sampleSubtype
  split
  · rename_i wild
    split
    · rename_i unending
      exact Or.inr (Or.inl ⟨wild, unending⟩)
    · rename_i suffix found
      obtain ⟨_, absent, more⟩ := (suffix_of_iff ..).mp found
      exact Or.inr (Or.inr ⟨suffix, wild, found, Or.inr (suffix_of_append absent more ['x'])⟩)
  · exact Or.inl rfl

theorem sample_subtype_plain {subtype : List Char} (plain : isPlainToken subtype = true) :
    isPlainToken (sampleSubtype subtype) = true := by
  unfold sampleSubtype
  split
  · split
    · rfl
    · rename_i suffix found
      obtain ⟨⟨front, rfl⟩, _, _⟩ := (suffix_of_iff ..).mp found
      have marks : isTokenChar 'x' = true ∧ isTokenChar '+' = true ∧ 'x'.isUpper = false ∧
        '+'.isUpper = false := by decide
      simp only [isPlainToken, isToken, List.all_append, List.all_cons, List.any_append,
        List.any_cons, Bool.and_eq_true, Bool.not_eq_true', Bool.or_eq_false_iff] at plain
      simp [isPlainToken, isToken, marks, plain]
  · exact plain

end Samples

section Meeting
variable {a b : List Char}

def SubtypesMeet (a b : List Char) : Prop :=
  a = b ∨ IsUnlimited a ∨ IsUnlimited b ∨ AsksFor a b ∨ AsksFor b a

theorem meet_of_shared {narrow : List Char} (left : subtypeIncludes a narrow = true)
    (right : subtypeIncludes b narrow = true) : SubtypesMeet a b := by
  rcases (subtype_includes_iff ..).mp left with rfl | unlimited | asks
  · rcases (subtype_includes_iff ..).mp right with same | unlimited | asks
    · exact Or.inl same.symm
    · exact Or.inr (Or.inr (Or.inl unlimited))
    · exact Or.inr (Or.inr (Or.inr (Or.inr asks)))
  · exact Or.inr (Or.inl unlimited)
  · rcases (subtype_includes_iff ..).mp right with rfl | unlimited | asksToo
    · exact Or.inr (Or.inr (Or.inr (Or.inl asks)))
    · exact Or.inr (Or.inr (Or.inl unlimited))
    · -- Both ask for the same suffix, since no suffix has one of its own.
      obtain ⟨suffix, wild, found, has⟩ := asks
      obtain ⟨other, _, foundToo, hasToo⟩ := asksToo
      have same : other = suffix := by
        rcases has with rfl | has
        · exact (hasToo.resolve_right (suffix_of_suffix found other)).symm
        · rcases hasToo with rfl | hasToo
          · exact absurd has (suffix_of_suffix foundToo suffix)
          · exact Option.some.inj (hasToo.symm.trans has)
      exact Or.inr (Or.inr (Or.inr (Or.inl ⟨suffix, wild, found, Or.inr (same ▸ foundToo)⟩)))

theorem sample_of_asked (asks : AsksFor a b) :
    subtypeIncludes a (sampleSubtype b) = true ∨ IsUnlimited b := by
  cases wild : isWildcardSubtype b with
  | false =>
    have itself : sampleSubtype b = b := by simp [sampleSubtype, wild]
    rw [itself]
    exact Or.inl ((subtype_includes_iff ..).mpr (Or.inr (Or.inr asks)))
  | true =>
    obtain ⟨suffix, wildToo, found, same | has⟩ := asks
    · have alone : b = wildcard :=
        Decidable.byContradiction fun other => suffix_not_wild found wild other same
      exact Or.inr (alone ▸ wildcard_unlimited)
    · obtain ⟨_, absent, more⟩ := (suffix_of_iff ..).mp found
      have sample : sampleSubtype b = ['x'] ++ '+' :: suffix := by
        simp [sampleSubtype, wild, has]
      rw [sample]
      refine Or.inl ((subtype_includes_iff ..).mpr (Or.inr (Or.inr ?_)))
      exact ⟨suffix, wildToo, found, Or.inr (suffix_of_append absent more ['x'])⟩

theorem sample_shared_of_meet (meet : SubtypesMeet a b) :
    subtypeIncludes b (sampleSubtype a) = true ∨ subtypeIncludes a (sampleSubtype b) = true := by
  rcases meet with rfl | unlimited | unlimited | asks | asks
  · exact Or.inl (sample_subtype_included a)
  · exact Or.inr (unlimited_includes unlimited _)
  · exact Or.inl (unlimited_includes unlimited _)
  · rcases sample_of_asked asks with shared | unlimited
    · exact Or.inr shared
    · exact Or.inl (unlimited_includes unlimited _)
  · rcases sample_of_asked asks with shared | unlimited
    · exact Or.inl shared
    · exact Or.inr (unlimited_includes unlimited _)

theorem OverlookedSubtypes.meet (overlooked : OverlookedSubtypes a b) : SubtypesMeet a b :=
  overlooked.unlimited.elim (fun first => Or.inr (Or.inl first))
    fun second => Or.inr (Or.inr (Or.inl second))

/-- Subtypes overlap when they meet, unless they are overlooked. -/
theorem subtypes_overlap_iff_meet (a b : List Char) :
    subtypesOverlap a b = true ↔ SubtypesMeet a b ∧ ¬ OverlookedSubtypes a b := by
  rw [subtypes_overlap_iff]
  constructor
  · rintro (rfl | rfl | rfl | asks | asks)
    · exact ⟨Or.inl rfl, fun overlooked => overlooked.differ rfl⟩
    · exact ⟨Or.inr (Or.inl wildcard_unlimited), fun overlooked => overlooked.notAlone.1 rfl⟩
    · exact ⟨Or.inr (Or.inr (Or.inl wildcard_unlimited)),
        fun overlooked => overlooked.notAlone.2 rfl⟩
    · obtain ⟨first, second⟩ := asks.not_unlimited
      refine ⟨Or.inr (Or.inr (Or.inr (Or.inl asks))), fun overlooked => ?_⟩
      exact overlooked.unlimited.elim first (second overlooked.notAlone.2)
    · obtain ⟨second, first⟩ := asks.not_unlimited
      refine ⟨Or.inr (Or.inr (Or.inr (Or.inr asks))), fun overlooked => ?_⟩
      exact overlooked.unlimited.elim (first overlooked.notAlone.1) second
  · rintro ⟨meet, seen⟩
    by_cases same : a = b
    · exact Or.inl same
    by_cases first : a = wildcard
    · exact Or.inr (Or.inl first)
    by_cases second : b = wildcard
    · exact Or.inr (Or.inr (Or.inl second))
    have limited : ¬ (IsUnlimited a ∨ IsUnlimited b) :=
      fun unlimited => seen ⟨same, ⟨first, second⟩, unlimited⟩
    rw [not_or] at limited
    rcases meet with equal | unlimited | unlimited | asks
    · exact absurd equal same
    · exact absurd unlimited limited.1
    · exact absurd unlimited limited.2
    · exact Or.inr (Or.inr (Or.inr asks))

end Meeting

end HandlerRouting.MediaType
