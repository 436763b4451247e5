/-!
Media types: a type, a subtype and named parameters. A type or subtype may be the wildcard, and a
subtype of the form `*+suffix` stands for every subtype with that suffix. This is the data of
`MediaType`; `suffix?` is its `subtype_suffix`, and `withoutParameters` its `without_parameters`.
-/

namespace HandlerRouting

structure MediaType where
  type : List Char
  subtype : List Char
  parameters : List (List Char × List Char) := []
deriving DecidableEq, Repr

namespace MediaType

def wildcard : List Char := ['*']

def charsetName : List Char := ['c', 'h', 'a', 'r', 's', 'e', 't']

def qualityName : List Char := ['q']

/-- The structured syntax suffix of a subtype: what follows its last plus sign, unless nothing
does. -/
def suffixOf (subtype : List Char) : Option (List Char) :=
  let suffix := (subtype.reverse.takeWhile (· ≠ '+')).reverse
  if subtype.contains '+' && !suffix.isEmpty then some suffix else none

def isWildcardSubtype (subtype : List Char) : Bool :=
  match subtype with
  | ['*'] => true
  | '*' :: '+' :: _ => true
  | _ => false

def hasWildcardType (m : MediaType) : Bool := m.type == wildcard

def hasWildcardSubtype (m : MediaType) : Bool := isWildcardSubtype m.subtype

def suffix? (m : MediaType) : Option (List Char) := suffixOf m.subtype

def IsConcrete (m : MediaType) : Prop :=
  m.hasWildcardType = false ∧ m.hasWildcardSubtype = false

/-- Media types are the same when they agree up to the order of their parameters. -/
instance : BEq MediaType where
  beq a b := a.type == b.type && a.subtype == b.subtype && a.parameters.isPerm b.parameters

theorem beq_iff (a b : MediaType) :
    (a == b) = true ↔
      a.type = b.type ∧ a.subtype = b.subtype ∧ a.parameters.Perm b.parameters := by
  show (a.type == b.type && a.subtype == b.subtype && a.parameters.isPerm b.parameters) = true ↔ _
  simp [List.isPerm_iff, and_assoc]

instance : EquivBEq MediaType where
  rfl := by simp [beq_iff]
  symm := by
    intro a b same
    rw [beq_iff] at *
    exact ⟨same.1.symm, same.2.1.symm, same.2.2.symm⟩
  trans := by
    intro a b c first second
    rw [beq_iff] at *
    exact ⟨first.1.trans second.1, first.2.1.trans second.2.1, first.2.2.trans second.2.2⟩

def withoutParameters (m : MediaType) : MediaType := { m with parameters := [] }

def all : MediaType := ⟨wildcard, wildcard, []⟩

def applicationJson : MediaType := ⟨"application".toList, "json".toList, []⟩

def applicationProblemJson : MediaType := ⟨"application".toList, "problem+json".toList, []⟩

def applicationXml : MediaType := ⟨"application".toList, "xml".toList, []⟩

def textPlain : MediaType := ⟨"text".toList, "plain".toList, []⟩

def textHtml : MediaType := ⟨"text".toList, "html".toList, []⟩

end MediaType

end HandlerRouting
