import HandlerRouting.Proofs.Precedence.StrictOrder

/-!
Levels of routes: the distance of the class and then the rank of the media type. One route comes
before another when it stands on a lower level, or when both stand on one level and only the number
of parameters tells their media types apart. So ties within a level need not be transitive.
-/

namespace HandlerRouting.Precedence
variable (h : Hierarchy) (raised : ClassId) {a b c : Route}

def level (route : Route) : ℕ ×ₗ ℤ ×ₗ Bool ×ₗ Bool :=
  toLex (distance h raised route, route.media.rank)

def Refines (a b : Route) : Prop :=
  a.media.SameKind b.media ∧ b.media.parameters.length < a.media.parameters.length

theorem level_eq_iff (a b : Route) :
    level h raised a = level h raised b ↔
      distance h raised a = distance h raised b ∧ a.media.rank = b.media.rank := by
  simp [level]

theorem level_lt_iff (a b : Route) :
    level h raised a < level h raised b ↔ distance h raised a < distance h raised b ∨
      distance h raised a = distance h raised b ∧ a.media.rank < b.media.rank :=
  Prod.Lex.toLex_lt_toLex

theorem before_iff (distinct : (Entries.keys a.media.parameters).Nodup) :
    before h raised a b = true ↔ level h raised a < level h raised b ∨
      level h raised a = level h raised b ∧ Refines a b := by
  have compared : before h raised a b = true ↔ distance h raised a < distance h raised b ∨
      distance h raised a = distance h raised b ∧ a.media.moreSpecific b.media = true := by
    rw [before, beq_iff_eq]
    exact compare_at_lt_iff distinct
  rw [compared, MediaType.more_specific_iff, level_lt_iff, level_eq_iff, Refines]
  tauto

theorem before_asymm (first : before h raised a b = true) : before h raised b a = false := by
  have turned : compare h raised b a = (compare h raised a b).swap := compare_at_swap ..
  rw [before, turned, beq_iff_eq.mp first]
  rfl

/-- A lower level comes first, and what stands on it never comes after. -/
theorem separated_of_level (distinct : (Entries.keys a.media.parameters).Nodup)
    (lower : level h raised a < level h raised b) :
    before h raised a b = true ∧ before h raised b a = false :=
  have goes := (before_iff h raised distinct).mpr (Or.inl lower)
  ⟨goes, before_asymm h raised goes⟩

theorem separated_of_refines (distinct : (Entries.keys a.media.parameters).Nodup)
    (same : level h raised a = level h raised b) (refines : Refines a b) :
    before h raised a b = true ∧ before h raised b a = false :=
  have goes := (before_iff h raised distinct).mpr (Or.inr ⟨same, refines⟩)
  ⟨goes, before_asymm h raised goes⟩

end HandlerRouting.Precedence
