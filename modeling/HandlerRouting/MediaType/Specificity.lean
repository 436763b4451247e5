import HandlerRouting.MediaType.Parameter

/-!
Specificity of media types: which of two that match a request is the better match. A higher quality
decides first, then a concrete type, then a concrete subtype, and between equal types and subtypes
the number of parameters. All other pairs are tied. `moreSpecific` is `is_more_specific`, and
`is_less_specific` is its converse.
-/

namespace HandlerRouting.MediaType

def quality (m : MediaType) : Binary64 :=
  match m.parameters.lookup qualityName with
  | none => .one
  | some value => ((qualityOf? value).bind Numeral.value?).getD .one

def moreSpecific (a b : MediaType) : Bool :=
  if a.quality.place ≠ b.quality.place then decide (b.quality.place < a.quality.place)
  else if a.hasWildcardType ≠ b.hasWildcardType then b.hasWildcardType
  else if a.hasWildcardSubtype ≠ b.hasWildcardSubtype then b.hasWildcardSubtype
  else if a.type = b.type ∧ a.subtype = b.subtype then
    decide (b.parameters.length < a.parameters.length)
  else false

theorem quality_default {m : MediaType} (unset : m.parameters.lookup qualityName = none) :
    m.quality = .one := by simp [quality, unset]

theorem more_specific_irrefl (m : MediaType) : m.moreSpecific m = false := by
  simp [moreSpecific]

end HandlerRouting.MediaType
