import HandlerRouting.MediaType.Matching
import HandlerRouting.MediaType.Obtainable

/-!
What two media types share: the concrete media types that both of them include. Overlapping is to
say whether there is one. It misses those of two different subtypes of which one, other than the
wildcard alone, includes every subtype.
-/

namespace HandlerRouting.MediaType

/-- A concrete media type that two media types both include. -/
structure Shared (a b c : MediaType) : Prop where
  obtainable : c.Obtainable
  concrete : c.IsConcrete
  left : a.includes c = true
  right : b.includes c = true

/-- A subtype that includes every subtype: the wildcard alone, or one that begins with a wildcard
and has nothing after its last plus sign. -/
structure IsUnlimited (subtype : List Char) : Prop where
  wild : isWildcardSubtype subtype = true
  unending : suffixOf subtype = none

instance (subtype : List Char) : Decidable (IsUnlimited subtype) :=
  decidable_of_iff (isWildcardSubtype subtype = true ∧ suffixOf subtype = none)
    ⟨fun ⟨wild, unending⟩ => ⟨wild, unending⟩, fun ⟨wild, unending⟩ => ⟨wild, unending⟩⟩

structure OverlookedSubtypes (a b : List Char) : Prop where
  differ : a ≠ b
  notAlone : a ≠ wildcard ∧ b ≠ wildcard
  unlimited : IsUnlimited a ∨ IsUnlimited b

/-- Two media types that share something and are not seen to overlap. -/
structure Overlooked (a b : MediaType) : Prop where
  concreteType : a.hasWildcardType = false
  sameType : a.type = b.type
  subtypes : OverlookedSubtypes a.subtype b.subtype

example : IsUnlimited "*+a+".toList := ⟨by decide, by decide⟩

end HandlerRouting.MediaType
