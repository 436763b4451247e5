import HandlerRouting.MediaType.Repetition
import Mathlib.Data.List.Forall2

/-!
Respelling: the same text but for the case of ASCII letters in its types and parameter names. The
values stay as they are.
-/

namespace HandlerRouting.MediaType

/-- Two texts that differ in the case of ASCII letters at most. -/
def SameButCase (a b : List Char) : Prop := a.map Char.toLower = b.map Char.toLower

/-- One segment after the first one: its name is what stands before the first equals sign, or all of
it if there is none. -/
inductive RespelledSegment : List Char → List Char → Prop where
  | named {name other : List Char} (value : List Char) (first : '=' ∉ name)
      (same : SameButCase name other) :
      RespelledSegment (name ++ '=' :: value) (other ++ '=' :: value)
  | unnamed {segment other : List Char} (noValue : '=' ∉ segment)
      (same : SameButCase segment other) : RespelledSegment segment other

/-- Two texts with the same segments but for the case of types and parameter names. -/
inductive Respelled (s t : List Char) : Prop where
  | mk {first respeltFirst : List Char} {others respelt : List (List Char)}
      (divides : Divides s first others) (dividesOther : Divides t respeltFirst respelt)
      (types : SameButCase first respeltFirst)
      (parameters : List.Forall₂ RespelledSegment others respelt)

/-- Two readings that agree: both are refusals, or both are the same media type. -/
inductive ReadAlike : Except Refusal MediaType → Except Refusal MediaType → Prop where
  | refused {refusal other : Refusal} : ReadAlike (.error refusal) (.error other)
  | read {m n : MediaType} (same : (m == n) = true) : ReadAlike (.ok m) (.ok n)

/-- Both lists of pairs are readable or neither is, and what prevails for a name has the same value
in both. -/
structure SettledAlike (pairs others : List (List Char × List Char)) : Prop where
  verdict : Readable pairs ↔ Readable others
  values : Readable pairs → ∀ pair other name value kept, Prevails pairs pair →
    Prevails others other → Gives pair (name, value) → Gives other (name, kept) → value = kept

def RepeatAlike (pairs others : List (List Char × List Char)) : Prop :=
  ∀ a ∈ pairs.zip others, ∀ b ∈ pairs.zip others, a.1.1 = b.1.1 ↔ a.2.1 = b.2.1

end HandlerRouting.MediaType
