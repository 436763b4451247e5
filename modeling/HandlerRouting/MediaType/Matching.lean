import HandlerRouting.MediaType.Basic

/-!
Matching media types. One includes another when it stands for everything that the other stands for;
two overlap when a request for one may be served under the other. Parameters play no part in either.
They are `includes` and `is_compatible_with`.
-/

namespace HandlerRouting.MediaType

def subtypeIncludes (broad narrow : List Char) : Bool :=
  broad == narrow ||
    (isWildcardSubtype broad &&
      match suffixOf broad with
      | none => true
      | some suffix => narrow == suffix || suffixOf narrow == some suffix)

def includes (broad narrow : MediaType) : Bool :=
  broad.hasWildcardType ||
    (broad.type == narrow.type && subtypeIncludes broad.subtype narrow.subtype)

def subtypesOverlap (a b : List Char) : Bool :=
  if a == b then true
  else if !(isWildcardSubtype a || isWildcardSubtype b) then false
  else if a == wildcard || b == wildcard then true
  -- Of two suffixes that of the first one decides.
  else match isWildcardSubtype a, suffixOf a, isWildcardSubtype b, suffixOf b with
    | true, some suffix, _, other => suffix == b || other == some suffix
    | _, other, true, some suffix => a == suffix || other == some suffix
    | _, _, _, _ => false

def overlaps (a b : MediaType) : Bool :=
  a.hasWildcardType || b.hasWildcardType ||
    (a.type == b.type && subtypesOverlap a.subtype b.subtype)

theorem includes_refl (m : MediaType) : m.includes m = true := by
  simp [includes, subtypeIncludes]

theorem overlaps_refl (m : MediaType) : m.overlaps m = true := by
  simp [overlaps, subtypesOverlap]

end HandlerRouting.MediaType
