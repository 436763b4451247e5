import HandlerRouting.MediaType.Specificity
import HandlerRouting.Proofs.MediaType.Reading

/-!
What the checks leave: every parameter of a media type was read, and every media type is well
formed.
-/

namespace HandlerRouting.MediaType

open Text

theorem is_plain_token_iff (s : List Char) :
    isPlainToken s = true ↔ isToken s = true ∧ ∀ c ∈ s, c.isUpper = false := by
  simp [isPlainToken]

theorem token_of_plain {s : List Char} (plain : isPlainToken s = true) : isToken s = true :=
  ((is_plain_token_iff s).mp plain).1

theorem plain_token_of_lower {s : List Char} (token : isToken (lower s) = true) :
    isPlainToken (lower s) = true := by
  refine (is_plain_token_iff _).mpr ⟨token, fun c member => ?_⟩
  have ascii := token_char_ascii (((is_token_iff _).mp token).2 c member)
  have lowered := lower_lowered s c member
  rw [IsLowered, lower_char_ascii ascii, List.singleton_inj] at lowered
  exact of_ascii (P := fun c => c.toLower = c → c.isUpper = false) (by decide +kernel) ascii lowered

theorem lower_plain_token {s : List Char} (plain : isPlainToken s = true) : lower s = s := by
  obtain ⟨token, small⟩ := (is_plain_token_iff s).mp plain
  refine lower_after_of_lowered [] fun c member => ?_
  have ascii := token_char_ascii (((is_token_iff s).mp token).2 c member)
  rw [IsLowered, lower_char_ascii ascii, to_lower_of_not_upper (small c member)]

theorem lower_trim_plain_token {s : List Char} (plain : isPlainToken s = true) :
    lower (trim s) = s := by
  rw [trim_token (token_of_plain plain), lower_plain_token plain]

theorem read_parameters_mem {text : String} {given kept : List (List Char × List Char)}
    {parameter : List Char × List Char} (done : readParameters text [] given = .ok kept)
    (member : parameter ∈ kept) :
    ∃ name value, readParameter text name value = .ok parameter := by
  obtain ⟨parameters, each, rfl⟩ := (read_parameters_iff ..).mp done
  have listed : parameter ∈ parameters := (Entries.mem_assign_all member).resolve_left (by simp)
  obtain ⟨pair, _, found⟩ := exists_related each listed
  exact ⟨pair.1, pair.2, found⟩

theorem Obtainable.parameter_read {m : MediaType} (given : Obtainable m)
    {parameter : List Char × List Char} (member : parameter ∈ m.parameters) :
    ∃ text name value, readParameter text name value = .ok parameter := by
  obtain ⟨text, type, subtype, parameters, read⟩ := given.exists_components
  obtain ⟨_, _, _, kept, done, rfl⟩ := (of_components_ok_iff ..).mp read
  exact ⟨text, read_parameters_mem done member⟩

theorem Obtainable.wellFormed {m : MediaType} (given : Obtainable m) : WellFormed m := by
  obtain ⟨text, type, subtype, parameters, read⟩ := given.exists_components
  obtain ⟨typeToken, subtypeToken, wildcards, kept, done, rfl⟩ := (of_components_ok_iff ..).mp read
  constructor
  case typeToken => exact plain_token_of_lower typeToken
  case subtypeToken => exact plain_token_of_lower subtypeToken
  case wildcards => exact wildcards
  case namesDistinct => exact given.names_distinct
  case nameTokens =>
    intro name member
    obtain ⟨⟨_, value⟩, known, rfl⟩ := List.mem_map.mp member
    obtain ⟨_, name, value, found⟩ := given.parameter_read known
    obtain ⟨rfl, token, _⟩ := (read_parameter_iff ..).mp found
    exact plain_token_of_lower token
  case qualityRead =>
    intro value found
    obtain ⟨_, _, _, read⟩ := given.parameter_read (Entries.mem_of_lookup found)
    obtain ⟨_, _, meant, _, admits⟩ := (read_parameter_iff ..).mp read
    cases admits with
    | quality read number range => exact ⟨_, _, read, number, range⟩
    | other _ notQuality => exact absurd rfl notQuality

theorem WellFormed.quality_in_range {m : MediaType} (formed : WellFormed m) :
    isQuality m.quality = true := by
  unfold quality
  split
  · decide
  · rename_i value found
    obtain ⟨numeral, x, read, number, range⟩ := formed.qualityRead value found
    rw [read, Option.bind_some, number]
    exact range

theorem defined_of_quality {x : Binary64} (range : isQuality x = true) : x.isUndefined = false := by
  obtain ⟨low, high⟩ : Binary64.zero.place ≤ x.place ∧ x.place ≤ Binary64.one.place := by
    simpa [isQuality, Binary64.le] using range
  have inside : x.magnitude ≤ Binary64.one.magnitude := by
    obtain ⟨_ | _, magnitude⟩ := x <;> simp [Binary64.place, Binary64.zero, Binary64.one] at * <;>
      omega
  have bound : Binary64.one.magnitude ≤ Binary64.infinitePattern := by decide
  exact decide_eq_false (Nat.not_lt.mpr (Nat.le_trans inside bound))

end HandlerRouting.MediaType
