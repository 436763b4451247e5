import HandlerRouting.Entries
import HandlerRouting.MediaType.Parameter
import HandlerRouting.MediaType.Segments
import HandlerRouting.Text.Blank

/-!
Reading media types: from their components, from their written form and from a list of written forms
between commas. A refusal carries the whole text in question and the first flaw found in it. `make`
is the constructor of `MediaType`; `parse` and `parseList` are its `parse` and `parse_list`.
-/

namespace HandlerRouting.MediaType

open Text

/-- What is wrong with a media type. The first four are flaws of the written form, the others of
one component. -/
inductive Flaw where
  | empty
  | noSlash
  | noSubtype
  | noValue (segment : List Char)
  | typeToken (given : List Char)
  | subtypeToken (lowered : List Char)
  | partWildcard
  | parameterName (given : List Char)
  | parameterValue (name value : List Char)
  | unknownCharset (value : List Char)
  | notNumber (value : List Char)
  | outOfRange (value : List Char)
deriving DecidableEq, Repr

namespace Flaw

def reason : Flaw → String
  | empty => "media type must not be empty"
  | noSlash => "does not contain '/'"
  | noSubtype => "does not contain subtype after '/'"
  | noValue segment => "parameter '" ++ String.ofList segment ++ "' has no value"
  | typeToken given => "invalid token character in type '" ++ String.ofList given ++ "'"
  | subtypeToken lowered =>
    "invalid token character in subtype '" ++ String.ofList lowered ++ "'"
  | partWildcard => "wildcard type is legal only in '*/*' (all media types)"
  | parameterName given => "invalid parameter name '" ++ String.ofList given ++ "'"
  | parameterValue name value =>
    "invalid value '" ++ String.ofList value ++ "' for parameter '" ++ String.ofList name ++ "'"
  | unknownCharset value => "unsupported charset '" ++ String.ofList value ++ "'"
  | notNumber value => "invalid quality value '" ++ String.ofList value ++ "'"
  | outOfRange value =>
    "quality value must be between 0.0 and 1.0, got '" ++ String.ofList value ++ "'"

def inComponent : Flaw → Bool
  | empty | noSlash | noSubtype | noValue _ => false
  | _ => true

def cause? : Flaw → Option String
  | unknownCharset _ => some "LookupError"
  | notNumber _ => some "ValueError"
  | _ => none

def causeInText? (flaw : Flaw) : Option String :=
  if flaw.inComponent then some "InvalidMediaTypeError" else none

end Flaw

/-- Why a text is no media type. A NUL character in a charset name stands apart: no charset name
can be looked up with it, so it is not reported as a flaw of the media type. -/
inductive Refusal where
  | flawed (text : String) (flaw : Flaw)
  | nulInCharset
deriving DecidableEq, Repr

def Refusal.message : Refusal → String
  | flawed text flaw => "Invalid media type [" ++ text ++ "]: " ++ flaw.reason
  | nulInCharset => "embedded null character"

def ValueFlaw.refusal (text : String) (name value : List Char) : ValueFlaw → Refusal
  | unquoted => .flawed text (.parameterValue name value)
  | unknownCharset => .flawed text (.unknownCharset value)
  | nulInCharset => .nulInCharset
  | notNumber => .flawed text (.notNumber value)
  | outOfRange => .flawed text (.outOfRange value)

def readParameter (text : String) (name value : List Char) :
    Except Refusal (List Char × List Char) :=
  let key := lower (trim name)
  if !isToken key then .error (.flawed text (.parameterName name))
  else match readValue? (trim value) with
    | none => .error (ValueFlaw.unquoted.refusal text key (trim value))
    | some meant =>
      match admitValue key meant with
      | .ok kept => .ok (key, kept)
      | .error flaw => .error (flaw.refusal text key meant)

def readParameters (text : String) (read : List (List Char × List Char)) :
    List (List Char × List Char) → Except Refusal (List (List Char × List Char))
  | [] => .ok read
  | (name, value) :: rest =>
    match readParameter text name value with
    | .ok (key, kept) => readParameters text (Entries.assign key kept read) rest
    | .error refusal => .error refusal

def ofComponents (text : String) (type subtype : List Char)
    (parameters : List (List Char × List Char)) : Except Refusal MediaType :=
  let plainType := lower (trim type)
  let plainSubtype := lower (trim subtype)
  if !isToken plainType then .error (.flawed text (.typeToken type))
  else if !isToken plainSubtype then .error (.flawed text (.subtypeToken plainSubtype))
  else if plainType = wildcard ∧ plainSubtype ≠ wildcard then .error (.flawed text .partWildcard)
  else match readParameters text [] parameters with
    | .ok kept => .ok ⟨plainType, plainSubtype, kept⟩
    | .error refusal => .error refusal

theorem of_components_ok_iff (text : String) (type subtype : List Char)
    (parameters : List (List Char × List Char)) (m : MediaType) :
    ofComponents text type subtype parameters = .ok m ↔
      isToken (lower (trim type)) = true ∧ isToken (lower (trim subtype)) = true ∧
      (lower (trim type) = wildcard → lower (trim subtype) = wildcard) ∧
      ∃ kept, readParameters text [] parameters = .ok kept ∧
        m = ⟨lower (trim type), lower (trim subtype), kept⟩ := by
  simp only [ofComponents]
  by_cases typeToken : isToken (lower (trim type)) = true
  · by_cases subtypeToken : isToken (lower (trim subtype)) = true
    · rw [if_neg (by simp [typeToken]), if_neg (by simp [subtypeToken])]
      by_cases part : lower (trim type) = wildcard ∧ lower (trim subtype) ≠ wildcard
      · rw [if_pos part]
        constructor
        · intro read
          cases read
        · rintro ⟨_, _, whole, _⟩
          exact absurd (whole part.1) part.2
      · have whole : lower (trim type) = wildcard → lower (trim subtype) = wildcard :=
          fun wild => Decidable.byContradiction fun narrow => part ⟨wild, narrow⟩
        rw [if_neg part]
        constructor
        · intro read
          split at read
          · rename_i kept found
            cases read
            exact ⟨typeToken, subtypeToken, whole, kept, found, rfl⟩
          · cases read
        · rintro ⟨_, _, _, kept, found, rfl⟩
          rw [found]
    · simp [typeToken, subtypeToken]
  · simp [typeToken]

def make (type subtype : List Char) (parameters : List (List Char × List Char) := []) :
    Except Refusal MediaType :=
  ofComponents (String.ofList (type ++ '/' :: subtype)) type subtype parameters

def splitParameter? (segment : List Char) : Option (List Char × List Char) :=
  match segment.dropWhile (· ≠ '=') with
  | [] => none
  | _ :: value => some (segment.takeWhile (· ≠ '='), value)

def collectParameters (text : String) (collected : List (List Char × List Char)) :
    List (List Char) → Except Refusal (List (List Char × List Char))
  | [] => .ok collected
  | segment :: rest =>
    let part := trim segment
    if part.isEmpty then collectParameters text collected rest
    else match splitParameter? part with
      | none => .error (.flawed text (.noValue part))
      -- The same writing of a name keeps its first place and its last value.
      | some (name, value) => collectParameters text (Entries.assign name value collected) rest

def splitTypes (text : String) (segment : List Char) : Except Refusal (List Char × List Char) :=
  -- A lone star stands for all media types.
  let fullType := if trim segment = wildcard then ['*', '/', '*'] else trim segment
  match fullType.dropWhile (· ≠ '/') with
  | [] => .error (.flawed text .noSlash)
  -- The slash stands last.
  | [_] => .error (.flawed text .noSubtype)
  | _ :: subtype => .ok (fullType.takeWhile (· ≠ '/'), subtype)

def parseChars (s : List Char) : Except Refusal MediaType :=
  let text := String.ofList s
  if allBlank s then .error (.flawed text .empty)
  else
    let (first, others) := segments s
    match splitTypes text first with
    | .error refusal => .error refusal
    | .ok (type, subtype) =>
      match collectParameters text [] others with
      | .error refusal => .error refusal
      | .ok parameters => ofComponents text type subtype parameters

def parse (text : String) : Except Refusal MediaType := parseChars text.toList

def splitCommas : List Char → List (List Char)
  | [] => [[]]
  | c :: rest =>
    match splitCommas rest with
    | [] => [[c]]
    | first :: others => if c = ',' then [] :: first :: others else (c :: first) :: others

/-- All media types of a list with commas between them. Quotes do not shield a comma. -/
def parseList (text : String) : Except Refusal (List MediaType) :=
  ((splitCommas text.toList).filter (!allBlank ·)).mapM parseChars

end HandlerRouting.MediaType
