import HandlerRouting.MediaType.Nesting
import HandlerRouting.Proofs.MediaType.Ranking
import HandlerRouting.Proofs.MediaType.Sharing

/-!
Inclusion as a preorder. What an included media type includes is included in turn, except below a
wildcard with a star for its suffix: that includes the wildcard alone and only some of the subtypes
that this one stands for. Of two media types that overlap one includes the other, so overlapping is
symmetric and sees types only.
-/

namespace HandlerRouting.MediaType
variable {a b c : MediaType}

section Subtypes
variable {broad middle narrow : List Char}

theorem AsksFor.trans (asks : AsksFor broad middle) (further : AsksFor middle narrow) :
    AsksFor broad narrow := by
  obtain ⟨suffix, wild, found, has⟩ := asks
  obtain ⟨other, _, foundToo, hasToo⟩ := further
  -- A suffix has none of its own, so the middle one ends in the suffix that is asked for.
  have ends : suffixOf middle = some suffix := by
    rcases has with rfl | ends
    · exact absurd foundToo (suffix_of_suffix found other)
    · exact ends
  obtain rfl : suffix = other := Option.some.inj (ends.symm.trans foundToo)
  exact ⟨suffix, wild, found, hasToo⟩

theorem AsksFor.star_of_unlimited (asks : AsksFor broad middle) (unlimited : IsUnlimited middle) :
    isWildcardSubtype broad = true ∧ suffixOf broad = some wildcard ∧ middle = wildcard := by
  have alone : middle = wildcard :=
    Decidable.byContradiction fun other => asks.not_unlimited.2 other unlimited
  obtain ⟨suffix, wild, found, same | ends⟩ := asks
  · exact ⟨wild, by rw [found, ← same, alone], alone⟩
  · rw [unlimited.unending] at ends
    cases ends

theorem subtype_includes_trans (first : subtypeIncludes broad middle = true)
    (second : subtypeIncludes middle narrow = true) :
    subtypeIncludes broad narrow = true ∨
      isWildcardSubtype broad = true ∧ suffixOf broad = some wildcard ∧ middle = wildcard := by
  rcases (subtype_includes_iff ..).mp first with rfl | unlimited | asks
  · exact Or.inl second
  · exact Or.inl (unlimited_includes unlimited narrow)
  · rcases (subtype_includes_iff ..).mp second with rfl | unlimited | further
    · exact Or.inl first
    · exact Or.inr (asks.star_of_unlimited unlimited)
    · exact Or.inl ((subtype_includes_iff ..).mpr (Or.inr (Or.inr (asks.trans further))))

theorem star_includes_iff (wild : isWildcardSubtype broad = true)
    (star : suffixOf broad = some wildcard) :
    subtypeIncludes broad narrow = true ↔
      narrow = broad ∨ narrow = wildcard ∨ suffixOf narrow = some wildcard := by
  have limited : ¬ IsUnlimited broad := fun unlimited => by simp [unlimited.unending] at star
  simp [subtype_includes_iff, AsksFor, wild, star, limited, @eq_comm _ broad]

end Subtypes

/-- What is included in turn is included, but for a star in the place of a suffix. -/
theorem includes_trans (first : a.includes b = true) (second : b.includes c = true)
    (plain : ¬ StarSuffixed a b) : a.includes c = true := by
  rw [includes_iff] at first second ⊢
  cases concrete : a.hasWildcardType with
  | true => exact Or.inl rfl
  | false =>
    obtain ⟨sameType, subtypes⟩ := first.resolve_left (by simp [concrete])
    have concreteToo : ¬ b.hasWildcardType = true := by
      simpa [hasWildcardType, ← sameType] using concrete
    obtain ⟨sameToo, further⟩ := second.resolve_left concreteToo
    rcases subtype_includes_trans subtypes further with whole | ⟨wild, star, alone⟩
    · exact Or.inr ⟨sameType.trans sameToo, whole⟩
    · exact absurd ⟨concrete, sameType, wild, star, alone⟩ plain

/-- What lies below the wildcard alone lies below a star suffix only where it is this wildcard or
ends in a star, too. -/
theorem StarSuffixed.includes_iff (starred : StarSuffixed a b) (included : b.includes c = true) :
    a.includes c = true ↔
      c.subtype = a.subtype ∨ c.subtype = wildcard ∨ c.suffix? = some wildcard := by
  have concrete := starred.concreteType
  have sameType : a.type = c.type := by
    have concreteToo : b.hasWildcardType = false := by
      simpa [hasWildcardType, ← starred.sameType] using concrete
    have below := (MediaType.includes_iff b c).mp included
    exact starred.sameType.trans (below.resolve_left (by simp [concreteToo])).1
  rw [MediaType.includes_iff, star_includes_iff starred.wild starred.star]
  simp [concrete, sameType, suffix?]

theorem StarSuffixed.sample_left_out (starred : StarSuffixed a b) :
    a.includes b.sample = false := by
  have sample : b.sample.subtype = ['x'] := by
    show sampleSubtype b.subtype = ['x']
    rw [starred.alone]
    rfl
  have wild : ['x'] ≠ a.subtype := by
    intro same
    have wild := starred.wild
    rw [hasWildcardSubtype, ← same] at wild
    cases wild
  rw [← Bool.not_eq_true, starred.includes_iff b.sample_included, suffix?, sample]
  rintro (same | alone | ends)
  · exact wild same
  · cases alone
  · cases ends

section Overlapping

theorem meet_iff_nested (a b : MediaType) :
    Meet a b ↔ a.includes b = true ∨ b.includes a = true := by
  simp only [Meet, SubtypesMeet, includes_iff, subtype_includes_iff]
  rw [@eq_comm _ b.type, @eq_comm _ b.subtype]
  tauto

theorem overlaps_iff_nested (a b : MediaType) :
    a.overlaps b = true ↔ (a.includes b = true ∨ b.includes a = true) ∧ ¬ Overlooked a b := by
  rw [overlaps_iff_meet, meet_iff_nested]

theorem overlaps_comm (a b : MediaType) : a.overlaps b = b.overlaps a := by
  rw [Bool.eq_iff_iff]
  simp only [overlaps_iff, subtypes_overlap_iff]
  rw [@eq_comm _ b.type, @eq_comm _ b.subtype]
  tauto

theorem overlaps_of_kind {other another : MediaType} (first : SameKind a other)
    (second : SameKind b another) : a.overlaps b = other.overlaps another := by
  simp only [overlaps, hasWildcardType, first.1, first.2, second.1, second.2]

end Overlapping

/-- Every media type includes itself, and it includes all that an included one includes, unless a
star suffix is taken for the wildcard alone; and then it includes of that the wildcards of its own
and the subtypes that end in a star. -/
theorem inclusion_preorder_iff (a : MediaType) {b : MediaType} (given : Obtainable b) :
    a.includes a = true ∧ (a.includes b = true →
      ((∀ c, Obtainable c → b.includes c = true → a.includes c = true) ↔ ¬ StarSuffixed a b) ∧
        (StarSuffixed a b → ∀ c, b.includes c = true → (a.includes c = true ↔
          c.subtype = a.subtype ∨ c.subtype = wildcard ∨ c.suffix? = some wildcard))) := by
  refine ⟨includes_refl a, fun included => ⟨⟨?_, ?_⟩, ?_⟩⟩
  · intro carries starred
    have whole := carries b.sample given.wellFormed.sample_obtainable b.sample_included
    rw [starred.sample_left_out] at whole
    cases whole
  · intro plain c _ further
    exact includes_trans included further plain
  · intro starred c further
    exact starred.includes_iff further

theorem json_wildcards_nested :
    ∃ a b star all, parse "application/*+json" = .ok a ∧ parse "application/*+ld+json" = .ok b ∧
      parse "text/*+*" = .ok star ∧ parse "text/*" = .ok all ∧
      (∀ c, Obtainable c → b.includes c = true → a.includes c = true) ∧
      ∀ c, all.includes c = true → (star.includes c = true ↔
        c.subtype = "*+*".toList ∨ c.subtype = wildcard ∨ c.suffix? = some wildcard) := by
  have read : parse "application/*+json" = .ok ⟨"application".toList, "*+json".toList, []⟩ := by
    decide
  have readToo : parse "application/*+ld+json" =
      .ok ⟨"application".toList, "*+ld+json".toList, []⟩ := by decide
  have readStar : parse "text/*+*" = .ok ⟨"text".toList, "*+*".toList, []⟩ := by decide
  have readAll : parse "text/*" = .ok ⟨"text".toList, wildcard, []⟩ := by decide
  have carries := ((inclusion_preorder_iff ⟨"application".toList, "*+json".toList, []⟩
    (.parsed readToo)).2 (by decide)).1
  have reaches := ((inclusion_preorder_iff ⟨"text".toList, "*+*".toList, []⟩
    (.parsed readAll)).2 (by decide)).2
  exact ⟨_, _, _, _, read, readToo, readStar, readAll, carries.mpr (by decide),
    reaches (by decide)⟩

/-- A suffix that is a star is taken for the wildcard alone, and not for what it stands for. -/
theorem star_suffix_not_transitive :
    ¬ ∀ a b c, Obtainable a → Obtainable b → Obtainable c → a.includes b = true →
      b.includes c = true → a.includes c = true := by
  intro carries
  have first : parse "text/*+*" = .ok ⟨"text".toList, "*+*".toList, []⟩ := by decide
  have second : parse "text/*" = .ok ⟨"text".toList, wildcard, []⟩ := by decide
  have third : parse "text/plain" = .ok textPlain := by decide
  have whole := carries _ _ _ (.parsed first) (.parsed second) (.parsed third) (by decide)
    (by decide)
  exact absurd whole (by decide)

end HandlerRouting.MediaType
