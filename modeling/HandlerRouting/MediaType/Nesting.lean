import HandlerRouting.MediaType.Sharing
import Mathlib.Tactic.MkIffOfInductiveProp

/-!
Media types within media types: one narrows another when it is included and does not include the
other in turn. A suffix that is a star reads like the wildcard alone, and with it inclusion reaches
less far than it seems.
-/

namespace HandlerRouting.MediaType

@[mk_iff]
structure Narrows (narrow broad : MediaType) : Prop where
  included : broad.includes narrow = true
  strict : narrow.includes broad = false

/-- A wildcard subtype with a suffix below one of the same type that includes every subtype. Neither
of the two media types is concrete, so specificity does not tell them apart. -/
@[mk_iff]
structure SuffixedBelow (narrow broad : MediaType) : Prop where
  concreteType : broad.hasWildcardType = false
  sameType : broad.type = narrow.type
  unlimited : IsUnlimited broad.subtype
  wild : narrow.hasWildcardSubtype = true
  suffixed : narrow.suffix?.isSome = true

/-- A wildcard with a star for its suffix, and the wildcard alone under the same concrete type. The
one includes the other, as the subtype that its suffix names, and not what the other includes. -/
@[mk_iff]
structure StarSuffixed (broad narrow : MediaType) : Prop where
  concreteType : broad.hasWildcardType = false
  sameType : broad.type = narrow.type
  wild : broad.hasWildcardSubtype = true
  star : broad.suffix? = some wildcard
  alone : narrow.subtype = wildcard

instance (narrow broad : MediaType) : Decidable (Narrows narrow broad) :=
  decidable_of_iff _ (narrows_iff narrow broad).symm

instance (narrow broad : MediaType) : Decidable (SuffixedBelow narrow broad) :=
  decidable_of_iff _ (suffixedBelow_iff narrow broad).symm

instance (broad narrow : MediaType) : Decidable (StarSuffixed broad narrow) :=
  decidable_of_iff _ (starSuffixed_iff broad narrow).symm

example : Narrows textPlain ⟨"text".toList, wildcard, []⟩ := by decide

end HandlerRouting.MediaType
