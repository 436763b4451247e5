import HandlerRouting.MediaType.Nesting
import HandlerRouting.Proofs.MediaType.Ranking
import HandlerRouting.Proofs.MediaType.Sharing

/-!
Specificity and inclusion. What narrows a media type is more specific than it when both are of one
quality: a concrete type lies below all types, and a concrete subtype below a wildcard. Only a
wildcard with a suffix below one without is tied with what it narrows.
-/

namespace HandlerRouting.MediaType
variable {narrow broad : MediaType}

theorem strict_subtypes {broad narrow : List Char} (included : subtypeIncludes broad narrow = true)
    (strict : subtypeIncludes narrow broad = false) :
    isWildcardSubtype broad = true ∧ (isWildcardSubtype narrow = true →
      IsUnlimited broad ∧ (suffixOf narrow).isSome = true) := by
  have apart : ¬ (narrow = broad ∨ IsUnlimited narrow ∨ AsksFor narrow broad) := by
    rw [← subtype_includes_iff, strict]
    decide
  simp only [not_or] at apart
  obtain ⟨differ, limited, unasked⟩ := apart
  rcases (subtype_includes_iff broad narrow).mp included with same | unlimited | asks
  · exact absurd same.symm differ
  · refine ⟨unlimited.wild, fun wild => ⟨unlimited, ?_⟩⟩
    rw [Option.isSome_iff_ne_none]
    exact fun unending => limited ⟨wild, unending⟩
  · refine ⟨asks.limited.1, fun wild => ?_⟩
    -- Two wildcards with a suffix ask for each other.
    have other : narrow ≠ wildcard := fun alone => limited (alone ▸ wildcard_unlimited)
    exact absurd (asks.swap wild other) unasked

theorem Narrows.concrete_type (narrows : Narrows narrow broad) :
    narrow.hasWildcardType = false := by
  rw [← Bool.not_eq_true]
  intro wild
  have back := (includes_iff narrow broad).mpr (Or.inl wild)
  simp [narrows.strict] at back

theorem Narrows.of_concrete (narrows : Narrows narrow broad)
    (concrete : broad.hasWildcardType = false) :
    broad.type = narrow.type ∧ broad.hasWildcardSubtype = true ∧
      (narrow.hasWildcardSubtype = true →
        IsUnlimited broad.subtype ∧ narrow.suffix?.isSome = true) := by
  obtain ⟨same, included⟩ : broad.type = narrow.type ∧
      subtypeIncludes broad.subtype narrow.subtype = true := by
    simpa [concrete] using (includes_iff broad narrow).mp narrows.included
  have strict : subtypeIncludes narrow.subtype broad.subtype = false := by
    rw [← Bool.not_eq_true]
    intro back
    have whole := (includes_iff narrow broad).mpr (Or.inr ⟨same.symm, back⟩)
    simp [narrows.strict] at whole
  exact ⟨same, strict_subtypes included strict⟩

theorem Narrows.rank_lt (narrows : Narrows narrow broad) (apart : ¬ SuffixedBelow narrow broad)
    (quality : narrow.quality.place = broad.quality.place) : narrow.rank < broad.rank := by
  refine (rank_lt_iff narrow broad).mpr (Or.inr ⟨quality, ?_⟩)
  rw [narrows.concrete_type]
  cases concrete : broad.hasWildcardType with
  | true => exact Or.inl (by decide)
  | false =>
    obtain ⟨same, wild, below⟩ := narrows.of_concrete concrete
    cases narrowWild : narrow.hasWildcardSubtype with
    | true =>
      obtain ⟨unlimited, suffixed⟩ := below narrowWild
      exact absurd ⟨concrete, same, unlimited, narrowWild, suffixed⟩ apart
    | false => exact Or.inr ⟨rfl, by simp [wild]⟩

theorem SuffixedBelow.rank_eq (below : SuffixedBelow narrow broad)
    (quality : narrow.quality.place = broad.quality.place) : narrow.rank = broad.rank := by
  have wild : broad.hasWildcardSubtype = true := below.unlimited.wild
  refine (rank_eq_iff narrow broad).mpr ⟨quality, ?_, by rw [below.wild, wild]⟩
  simp [hasWildcardType, below.sameType]

theorem SuffixedBelow.other_kind (below : SuffixedBelow narrow broad) :
    ¬ SameKind narrow broad := by
  intro kind
  have suffixed := below.suffixed
  rw [suffix?, kind.2, below.unlimited.unending] at suffixed
  cases suffixed

theorem SuffixedBelow.tied (below : SuffixedBelow narrow broad)
    (quality : narrow.quality.place = broad.quality.place) :
    narrow.moreSpecific broad = false ∧ broad.moreSpecific narrow = false :=
  have ranks := below.rank_eq quality
  ⟨not_more_specific_of_rank ranks below.other_kind,
    not_more_specific_of_rank ranks.symm fun kind => below.other_kind kind.symm⟩

/-- At one quality, what narrows a media type is more specific than it, but for suffixes. -/
theorem Narrows.specific_iff (narrows : Narrows narrow broad)
    (quality : narrow.quality.place = broad.quality.place) :
    narrow.moreSpecific broad = true ↔ ¬ SuffixedBelow narrow broad := by
  constructor
  · intro more below
    simp [(below.tied quality).1] at more
  · intro apart
    exact (more_specific_iff narrow broad).mpr (Or.inl (narrows.rank_lt apart quality))

theorem Narrows.not_less_specific (narrows : Narrows narrow broad)
    (quality : narrow.quality.place = broad.quality.place) :
    broad.moreSpecific narrow = false := by
  by_cases below : SuffixedBelow narrow broad
  · exact (below.tied quality).2
  · exact more_specific_asymm ((narrows.specific_iff quality).mpr below)

end HandlerRouting.MediaType
