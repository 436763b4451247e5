import HandlerRouting.MediaType.Edit

/-!
The media types that there are: those that reading, making and editing give. All of them come from
components that were checked, so what the checks demand holds of each.
-/

namespace HandlerRouting.MediaType

open Text

inductive Obtainable : MediaType → Prop where
  | parsed {text : String} {m : MediaType} (read : parse text = .ok m) : Obtainable m
  | made {type subtype : List Char} {parameters : List (List Char × List Char)} {m : MediaType}
      (read : make type subtype parameters = .ok m) : Obtainable m
  | edited {m n : MediaType} {added : List (List Char × List Char)} (given : Obtainable m)
      (read : m.withParameters added = .ok n) : Obtainable n
  | stripped {m : MediaType} (given : Obtainable m) : Obtainable m.withoutParameters

def isPlainToken (s : List Char) : Bool := isToken s && !s.any Char.isUpper

def StandsForQuality (value : List Char) : Prop :=
  ∃ numeral x, qualityOf? value = some numeral ∧ numeral.value? = some x ∧ isQuality x = true

structure WellFormed (m : MediaType) : Prop where
  typeToken : isPlainToken m.type = true
  subtypeToken : isPlainToken m.subtype = true
  wildcards : m.type = wildcard → m.subtype = wildcard
  nameTokens : ∀ name ∈ Entries.keys m.parameters, isPlainToken name = true
  namesDistinct : (Entries.keys m.parameters).Nodup
  qualityRead : ∀ value, m.parameters.lookup qualityName = some value → StandsForQuality value

theorem of_components_stripped {text : String} {type subtype : List Char}
    {parameters : List (List Char × List Char)} {m : MediaType}
    (read : ofComponents text type subtype parameters = .ok m) :
    ofComponents text type subtype [] = .ok m.withoutParameters := by
  obtain ⟨typeToken, subtypeToken, whole, kept, _, rfl⟩ := (of_components_ok_iff ..).mp read
  exact (of_components_ok_iff ..).mpr ⟨typeToken, subtypeToken, whole, [], rfl, rfl⟩

/-- Every media type comes from components, whichever way it was obtained. -/
theorem Obtainable.exists_components {m : MediaType} (given : Obtainable m) :
    ∃ text type subtype parameters, ofComponents text type subtype parameters = .ok m := by
  induction given with
  | parsed read =>
    simp only [parse, parseChars] at read
    repeat' split at read
    all_goals first | cases read | exact ⟨_, _, _, _, read⟩
  | made read => exact ⟨_, _, _, _, read⟩
  | edited _ read => exact ⟨_, _, _, _, read⟩
  | stripped _ ih =>
    obtain ⟨text, type, subtype, parameters, read⟩ := ih
    exact ⟨text, type, subtype, [], of_components_stripped read⟩

theorem read_parameters_names {text : String} {read kept : List (List Char × List Char)}
    {given : List (List Char × List Char)} (distinct : (Entries.keys read).Nodup)
    (done : readParameters text read given = .ok kept) : (Entries.keys kept).Nodup := by
  induction given generalizing read with
  | nil =>
    cases done
    exact distinct
  | cons pair rest ih =>
    simp only [readParameters] at done
    split at done
    · exact ih (Entries.keys_assign_nodup _ _ read distinct) done
    · cases done

theorem Obtainable.names_distinct {m : MediaType} (given : Obtainable m) :
    (Entries.keys m.parameters).Nodup := by
  obtain ⟨text, type, subtype, parameters, read⟩ := given.exists_components
  obtain ⟨_, _, _, kept, done, rfl⟩ := (of_components_ok_iff ..).mp read
  exact read_parameters_names (by simp [Entries.keys]) done

end HandlerRouting.MediaType
