import HandlerRouting.Distinct
import HandlerRouting.MediaType.Division
import HandlerRouting.MediaType.Grammar

/-!
Repeated parameters. A text may write a parameter name several times, and in several ways: with
capitals, or with blanks before the equals sign. Each writing of a name settles on its last value,
and the writings stand in the order in which they first came. All of them have to give a parameter;
of several writings of one name the last to come up prevails.
-/

namespace HandlerRouting.MediaType

open Text

/-- The pairs of a name and a value, as they are written, that segments hold; blank segments hold
none. -/
inductive Writes : List (List Char) → List (List Char × List Char) → Prop where
  | none : Writes [] []
  | blank {segment : List Char} {rest : List (List Char)} {pairs : List (List Char × List Char)}
      (empty : trim segment = []) (others : Writes rest pairs) : Writes (segment :: rest) pairs
  | pair {segment name value : List Char} {rest : List (List Char)}
      {pairs : List (List Char × List Char)} (parts : trim segment = name ++ '=' :: value)
      (first : '=' ∉ name) (others : Writes rest pairs) :
      Writes (segment :: rest) ((name, value) :: pairs)

/-- A first segment that spells a type and a subtype, with the pairs of the other segments. -/
inductive Written (s type subtype : List Char) (pairs : List (List Char × List Char)) : Prop where
  | mk {first : List Char} {others : List (List Char)} (divides : Divides s first others)
      (types : SpellsTypes first type subtype) (written : Writes others pairs)

def plainName (writing : List Char) : List Char := lower (trim writing)

/-- The parameter that a written pair gives, if its name is a token and its value is admitted. -/
inductive Gives : List Char × List Char → List Char × List Char → Prop where
  | mk {writing value meant kept : List Char} (token : isToken (plainName writing) = true)
      (means : Means (trim value) meant) (admits : Admits (plainName writing) meant kept) :
      Gives (writing, value) (plainName writing, kept)

/-- The last of the pairs with its writing of a name. -/
def Stands (pairs : List (List Char × List Char)) (pair : List Char × List Char) : Prop :=
  ∃ front back, pairs = front ++ pair :: back ∧ pair.1 ∉ Entries.keys back

/-- One pair for each writing of a name, as it stands, in the order in which the writings first
came. -/
structure Settles (pairs settled : List (List Char × List Char)) : Prop where
  order : Entries.keys settled = distinct (Entries.keys pairs)
  stand : ∀ pair ∈ settled, Stands pairs pair

def Readable (pairs : List (List Char × List Char)) : Prop :=
  ∀ pair, Stands pairs pair → ∃ parameter, Gives pair parameter

/-- Of the writings of its name the last to come up. -/
def Prevails (pairs : List (List Char × List Char)) (pair : List Char × List Char) : Prop :=
  ∃ front back, Settles pairs (front ++ pair :: back) ∧
    ∀ other ∈ back, plainName other.1 ≠ plainName pair.1

/-- The first writing that gives no parameter is one of the charset whose value has a NUL character
in it. -/
inductive HidesNul (s : List Char) : Prop where
  | mk {type subtype meant : List Char} {pairs front back : List (List Char × List Char)}
      {pair : List Char × List Char} (written : Written s type subtype pairs)
      (settles : Settles pairs (front ++ pair :: back))
      (fit : ∀ earlier ∈ front, ∃ parameter, Gives earlier parameter)
      (charset : plainName pair.1 = charsetName) (means : Means (trim pair.2) meant)
      (nul : '\x00' ∈ meant)

end HandlerRouting.MediaType
