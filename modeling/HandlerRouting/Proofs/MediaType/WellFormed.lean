import HandlerRouting.MediaType.Reached
import HandlerRouting.Proofs.MediaType.Listing

/-!
Every media type is well formed, however it was reached: its quality can be read, and its type and
subtype make it again.
-/

namespace HandlerRouting.MediaType
variable {m : MediaType}

/-- Lists reach no media type that cannot be had without them. -/
theorem reached_iff_obtainable (m : MediaType) : Reached m ↔ Obtainable m := by
  constructor
  · intro reached
    induction reached with
    | made read => exact .made read
    | parsed read => exact .parsed read
    | listed read among =>
      obtain ⟨part, _, parsed⟩ := exists_part read among
      exact .parsed parsed
    | edited _ read ih => exact .edited ih read
    | stripped _ ih => exact .stripped ih
  · intro given
    induction given with
    | made read => exact .made read
    | parsed read => exact .parsed read
    | edited _ read ih => exact .edited ih read
    | stripped _ ih => exact .stripped ih

theorem WellFormed.quality_read (formed : WellFormed m) :
    ∃ numeral, m.readQuality? = some numeral ∧ numeral.value? = some m.quality := by
  cases found : m.parameters.lookup qualityName with
  | none =>
    refine ⟨.finite false 1 0, ?_, ?_⟩
    · rw [readQuality?, found]
      decide
    · rw [quality_default found]
      decide
  | some value =>
    obtain ⟨numeral, x, read, number, _⟩ := formed.qualityRead value found
    refine ⟨numeral, ?_, ?_⟩
    · rw [readQuality?, found]
      exact read
    · simp [quality, found, read, number]

theorem WellFormed.made_again (formed : WellFormed m) :
    make m.type m.subtype = .ok m.withoutParameters := by
  have type := lower_trim_plain_token formed.typeToken
  have subtype := lower_trim_plain_token formed.subtypeToken
  refine (of_components_ok_iff ..).mpr ?_
  rw [type, subtype]
  exact ⟨token_of_plain formed.typeToken, token_of_plain formed.subtypeToken, formed.wildcards,
    [], rfl, rfl⟩

/-- What was reached is well formed. Its quality can be read and lies between 0 and 1, and its type
and subtype make a media type of this type and subtype. -/
theorem reached_well_formed (reached : Reached m) :
    WellFormed m ∧
    (∃ numeral, m.readQuality? = some numeral ∧ numeral.value? = some m.quality ∧
      Binary64.zero.le m.quality = true ∧ m.quality.le .one = true) ∧
    make m.type m.subtype = .ok m.withoutParameters := by
  have formed := ((reached_iff_obtainable m).mp reached).wellFormed
  obtain ⟨numeral, read, number⟩ := formed.quality_read
  have range : Binary64.zero.le m.quality = true ∧ m.quality.le .one = true := by
    simpa [isQuality] using formed.quality_in_range
  exact ⟨formed, ⟨numeral, read, number, range⟩, formed.made_again⟩

theorem listed_kelvin_well_formed :
    ∃ m : MediaType, m.type = "text".toList ∧ m.subtype = ['k'] ∧ WellFormed m ∧
      make m.type m.subtype = .ok m.withoutParameters := by
  let m : MediaType := ⟨"text".toList, ['k'], [(['q'], "0.5".toList)]⟩
  let n : MediaType :=
    ⟨"text".toList, ['k'], [(['q'], "0.5".toList), ("level".toList, "x y".toList)]⟩
  have read : parseList "*, TEXT/\u212a;Q=\"0.5\"" = .ok [all, m] := by decide
  have edited : m.withParameters [(" Level".toList, "x y".toList)] = .ok n := by decide
  have listed : Reached m := .listed read (by simp)
  obtain ⟨formed, _, again⟩ := reached_well_formed (.edited listed edited)
  exact ⟨n, rfl, rfl, formed, again⟩

end HandlerRouting.MediaType
