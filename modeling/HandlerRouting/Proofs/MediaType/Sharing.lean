import HandlerRouting.Proofs.MediaType.Subtypes

/-!
Overlapping media types are those that share a concrete one, except for the pairs that are
overlooked.
-/

namespace HandlerRouting.MediaType

open Text

variable {a b : MediaType}

theorem includes_iff (broad narrow : MediaType) :
    broad.includes narrow = true ↔ broad.hasWildcardType = true ∨
      broad.type = narrow.type ∧ subtypeIncludes broad.subtype narrow.subtype = true := by
  simp [includes]

theorem overlaps_iff (a b : MediaType) :
    a.overlaps b = true ↔ a.hasWildcardType = true ∨ b.hasWildcardType = true ∨
      a.type = b.type ∧ subtypesOverlap a.subtype b.subtype = true := by
  simp [overlaps, or_assoc]

section Samples

def sample (m : MediaType) : MediaType :=
  ⟨if m.hasWildcardType then ['x'] else m.type, sampleSubtype m.subtype, []⟩

theorem sample_concrete (m : MediaType) : m.sample.IsConcrete := by
  refine ⟨?_, sample_subtype_concrete m.subtype⟩
  show ((if m.hasWildcardType then ['x'] else m.type) == wildcard) = false
  split
  · rfl
  · simp_all [hasWildcardType]

theorem sample_included (m : MediaType) : m.includes m.sample = true := by
  rw [includes_iff]
  by_cases wild : m.hasWildcardType = true
  · exact Or.inl wild
  · refine Or.inr ⟨?_, sample_subtype_included m.subtype⟩
    simp [sample, wild]

theorem obtainable_of_plain {type subtype : List Char} (plainType : isPlainToken type = true)
    (plainSubtype : isPlainToken subtype = true) (whole : type = wildcard → subtype = wildcard) :
    Obtainable ⟨type, subtype, []⟩ := by
  have made : make type subtype = .ok ⟨type, subtype, []⟩ := by
    refine (of_components_ok_iff ..).mpr ?_
    rw [lower_trim_plain_token plainType, lower_trim_plain_token plainSubtype]
    exact ⟨token_of_plain plainType, token_of_plain plainSubtype, whole, [], rfl, rfl⟩
  exact .made made

theorem WellFormed.sample_obtainable {m : MediaType} (formed : WellFormed m) :
    m.sample.Obtainable := by
  apply obtainable_of_plain
  · split
    · rfl
    · exact formed.typeToken
  · exact sample_subtype_plain formed.subtypeToken
  · intro wild
    exact absurd wild (beq_eq_false_iff_ne.mp m.sample_concrete.1)

end Samples

section Meeting

def Meet (a b : MediaType) : Prop :=
  a.hasWildcardType = true ∨ b.hasWildcardType = true ∨
    a.type = b.type ∧ SubtypesMeet a.subtype b.subtype

theorem Shared.meet {c : MediaType} (shared : Shared a b c) : Meet a b := by
  rcases (includes_iff a c).mp shared.left with wild | ⟨type, left⟩
  · exact Or.inl wild
  · rcases (includes_iff b c).mp shared.right with wild | ⟨typeToo, right⟩
    · exact Or.inr (Or.inl wild)
    · exact Or.inr (Or.inr ⟨type.trans typeToo.symm, meet_of_shared left right⟩)

theorem Meet.sample_shared (meet : Meet a b) :
    b.includes a.sample = true ∨ a.includes b.sample = true := by
  by_cases first : a.hasWildcardType = true
  · exact Or.inr ((includes_iff ..).mpr (Or.inl first))
  by_cases second : b.hasWildcardType = true
  · exact Or.inl ((includes_iff ..).mpr (Or.inl second))
  obtain ⟨sameType, subtypes⟩ := (meet.resolve_left first).resolve_left second
  rcases sample_shared_of_meet subtypes with shared | shared
  · refine Or.inl ((includes_iff ..).mpr (Or.inr ⟨?_, shared⟩))
    simp [sample, first, sameType]
  · refine Or.inr ((includes_iff ..).mpr (Or.inr ⟨?_, shared⟩))
    simp [sample, second, sameType]

theorem Meet.exists_shared (meet : Meet a b) (first : Obtainable a) (second : Obtainable b) :
    ∃ c, Shared a b c := by
  rcases meet.sample_shared with shared | shared
  · exact ⟨a.sample, first.wellFormed.sample_obtainable, a.sample_concrete, a.sample_included,
      shared⟩
  · exact ⟨b.sample, second.wellFormed.sample_obtainable, b.sample_concrete, shared,
      b.sample_included⟩

theorem Overlooked.meet (overlooked : Overlooked a b) : Meet a b :=
  Or.inr (Or.inr ⟨overlooked.sameType, overlooked.subtypes.meet⟩)

theorem overlaps_iff_meet (a b : MediaType) :
    a.overlaps b = true ↔ Meet a b ∧ ¬ Overlooked a b := by
  rw [overlaps_iff]
  by_cases first : a.hasWildcardType = true
  · have seen : ¬ Overlooked a b := fun overlooked => by simp [overlooked.concreteType] at first
    simp [Meet, first, seen]
  by_cases second : b.hasWildcardType = true
  · have seen : ¬ Overlooked a b := fun overlooked =>
      first (by rw [hasWildcardType, overlooked.sameType]; exact second)
    simp [Meet, second, seen]
  have overlooked_iff : Overlooked a b ↔
      a.type = b.type ∧ OverlookedSubtypes a.subtype b.subtype :=
    ⟨fun overlooked => ⟨overlooked.sameType, overlooked.subtypes⟩,
      fun ⟨sameType, subtypes⟩ => ⟨by simpa using first, sameType, subtypes⟩⟩
  simp only [Meet, first, second, overlooked_iff, subtypes_overlap_iff_meet]
  tauto

end Meeting

/-- Media types overlap exactly when they share a concrete media type and are not overlooked; those
that are overlooked share one, too. -/
theorem overlaps_iff_shared (first : Obtainable a) (second : Obtainable b) :
    (a.overlaps b = true ↔ (∃ c, Shared a b c) ∧ ¬ Overlooked a b) ∧
      (Overlooked a b → ∃ c, Shared a b c) := by
  constructor
  · rw [overlaps_iff_meet]
    constructor
    · rintro ⟨meet, seen⟩
      exact ⟨meet.exists_shared first second, seen⟩
    · rintro ⟨⟨c, shared⟩, seen⟩
      exact ⟨shared.meet, seen⟩
  · intro overlooked
    exact overlooked.meet.exists_shared first second

theorem suffixed_requests_share :
    ∃ a b c, parse "application/*+json" = .ok a ∧ parse "application/json" = .ok b ∧
      Shared a b c := by
  have read : parse "application/*+json" = .ok ⟨"application".toList, "*+json".toList, []⟩ := by
    decide +kernel
  have readToo : parse "application/json" = .ok applicationJson := by decide +kernel
  have overlap := (overlaps_iff_shared (.parsed read) (.parsed readToo)).1.mp (by decide)
  obtain ⟨c, shared⟩ := overlap.1
  exact ⟨_, _, c, read, readToo, shared⟩

/-- A wildcard with nothing behind its plus sign includes every subtype and overlaps with none. -/
theorem open_ended_overlooked :
    ¬ ∀ a b, Obtainable a → Obtainable b → (a.overlaps b = true ↔ ∃ c, Shared a b c) := by
  intro seen
  have read : parse "text/*+" = .ok ⟨"text".toList, "*+".toList, []⟩ := by decide +kernel
  have readToo : parse "text/plain" = .ok textPlain := by decide +kernel
  have apart := seen _ _ (.parsed read) (.parsed readToo)
  have shared : Shared ⟨"text".toList, "*+".toList, []⟩ textPlain textPlain :=
    ⟨.parsed readToo, ⟨rfl, rfl⟩, by decide, by decide⟩
  exact absurd (apart.mpr ⟨_, shared⟩) (by decide)

end HandlerRouting.MediaType
