import HandlerRouting.MediaType.Edit
import HandlerRouting.MediaType.Repetition

/-!
Merged parameters: what a media type should have where parameters are added or replaced. Names count
without capitals and blanks, a later parameter takes the place of an earlier one of its name, and a
charset is kept in lower case.
-/

namespace HandlerRouting.MediaType

open Text

def plainParameter (parameter : List Char × List Char) : List Char × List Char :=
  (plainName parameter.1, parameter.2)

/-- The parameters of a media type with others added. A name that the media type has is replaced in
its place; other writings of names stand behind, and prevail over what stands before them. -/
def merged (m : MediaType) (added : List (List Char × List Char)) :
    List (List Char × List Char) :=
  Entries.ofPairs ((Entries.assignAll added m.parameters).map plainParameter)

def keptForm (parameter : List Char × List Char) : List Char × List Char :=
  (parameter.1, if parameter.1 = charsetName then lower parameter.2 else parameter.2)

def looksQuoted (value : List Char) : Bool :=
  isToken value && decide (2 ≤ value.length) && value.head? == some '\'' &&
    value.getLast? == some '\''

/-- What a value comes back as when it is written and read. -/
def regained (value : List Char) : List Char :=
  if looksQuoted value then value.tail.dropLast else value

def keptParameters (parameters : List (List Char × List Char)) : List (List Char × List Char) :=
  parameters.map fun parameter => keptForm (parameter.1, regained parameter.2)

example : regained ['\'', 'y', '\''] = ['y'] := by decide

end HandlerRouting.MediaType
