import HandlerRouting.Entries
import HandlerRouting.MediaType.Specificity
import Mathlib.Data.Prod.Lex
import Mathlib.Data.Int.Order.Basic

/-!
Specificity as an order. Quality, then a concrete type, then a concrete subtype rank media types in
one line; the number of parameters only tells apart media types of one kind.
-/

namespace HandlerRouting.MediaType
variable {a b c : MediaType}

def rank (m : MediaType) : ℤ ×ₗ Bool ×ₗ Bool :=
  toLex (-m.quality.place, toLex (m.hasWildcardType, m.hasWildcardSubtype))

def SameKind (a b : MediaType) : Prop := a.type = b.type ∧ a.subtype = b.subtype

instance (a b : MediaType) : Decidable (SameKind a b) := inferInstanceAs (Decidable (_ ∧ _))

theorem SameKind.symm (same : SameKind a b) : SameKind b a := ⟨same.1.symm, same.2.symm⟩

theorem SameKind.trans (first : SameKind a b) (second : SameKind b c) :
    SameKind a c := ⟨first.1.trans second.1, first.2.trans second.2⟩

theorem rank_lt_iff (a b : MediaType) :
    a.rank < b.rank ↔ b.quality.place < a.quality.place ∨
      a.quality.place = b.quality.place ∧ (a.hasWildcardType < b.hasWildcardType ∨
        a.hasWildcardType = b.hasWildcardType ∧ a.hasWildcardSubtype < b.hasWildcardSubtype) := by
  simp only [rank, Prod.Lex.toLex_lt_toLex, Int.neg_lt_neg_iff, Int.neg_inj]

theorem rank_eq_iff (a b : MediaType) :
    a.rank = b.rank ↔ a.quality.place = b.quality.place ∧
      a.hasWildcardType = b.hasWildcardType ∧ a.hasWildcardSubtype = b.hasWildcardSubtype := by
  simp [rank]

theorem more_specific_iff (a b : MediaType) :
    a.moreSpecific b = true ↔ a.rank < b.rank ∨
      a.rank = b.rank ∧ SameKind a b ∧ b.parameters.length < a.parameters.length := by
  rw [rank_lt_iff, rank_eq_iff, moreSpecific]
  by_cases quality : a.quality.place = b.quality.place
  · by_cases wildType : a.hasWildcardType = b.hasWildcardType
    · by_cases wildSubtype : a.hasWildcardSubtype = b.hasWildcardSubtype
      · by_cases kind : a.type = b.type ∧ a.subtype = b.subtype
        · simp [quality, wildType, wildSubtype, kind, SameKind]
        · simp [quality, wildType, wildSubtype, kind, SameKind]
      · rw [if_neg (by simpa using quality), if_neg (by simpa using wildType), if_pos wildSubtype]
        cases first : a.hasWildcardSubtype <;> cases second : b.hasWildcardSubtype <;>
          simp_all
    · rw [if_neg (by simpa using quality), if_pos wildType]
      cases first : a.hasWildcardType <;> cases second : b.hasWildcardType <;> simp_all
  · rw [if_pos quality]
    simp [quality]

theorem not_more_specific_of_rank (same : a.rank = b.rank) (apart : ¬ SameKind a b) :
    a.moreSpecific b = false := by
  rw [← Bool.not_eq_true, more_specific_iff]
  rintro (lower | ⟨_, kind, _⟩)
  · exact lower.ne same
  · exact apart kind

theorem more_specific_asymm (more : a.moreSpecific b = true) : b.moreSpecific a = false := by
  rw [← Bool.not_eq_true, more_specific_iff]
  rcases (more_specific_iff a b).mp more with lower | ⟨same, _, larger⟩
  · rintro (back | ⟨same, _⟩)
    · exact lt_asymm lower back
    · exact lower.ne' same
  · rintro (back | ⟨_, _, fewer⟩)
    · exact back.ne' same
    · exact lt_asymm larger fewer

theorem more_specific_trans (first : a.moreSpecific b = true) (second : b.moreSpecific c = true) :
    a.moreSpecific c = true := by
  rw [more_specific_iff] at *
  rcases first with lower | ⟨same, kind, larger⟩
  · rcases second with lowerToo | ⟨sameToo, _⟩
    · exact Or.inl (lower.trans lowerToo)
    · exact Or.inl (sameToo ▸ lower)
  · rcases second with lowerToo | ⟨sameToo, kindToo, largerToo⟩
    · exact Or.inl (same ▸ lowerToo)
    · exact Or.inr ⟨same.trans sameToo, kind.trans kindToo, largerToo.trans larger⟩

theorem rank_congr (distinct : (Entries.keys a.parameters).Nodup) (same : (a == b) = true) :
    a.rank = b.rank := by
  obtain ⟨type, subtype, order⟩ := (beq_iff a b).mp same
  have quality : a.quality = b.quality := by
    simp only [MediaType.quality, Entries.lookup_perm distinct order qualityName]
  simp [rank, quality, hasWildcardType, hasWildcardSubtype, type, subtype]

theorem not_more_specific_of_same (distinct : (Entries.keys a.parameters).Nodup)
    (same : (a == b) = true) : a.moreSpecific b = false := by
  obtain ⟨_, _, order⟩ := (beq_iff a b).mp same
  rw [← Bool.not_eq_true, more_specific_iff, rank_congr distinct same]
  rintro (lower | ⟨_, _, more⟩)
  · exact lt_irrefl _ lower
  · rw [order.length_eq] at more
    exact lt_irrefl _ more

end HandlerRouting.MediaType
