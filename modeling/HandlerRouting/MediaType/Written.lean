import HandlerRouting.MediaType.Basic
import HandlerRouting.Text.Quoted
import HandlerRouting.Text.Token

/-!
The written form of a media type: `type/subtype` and then `;name=value` for every parameter. A value
that is no token is put between double quotes. It is what `MediaType` shows as, with `_quote` for
its values.
-/

namespace HandlerRouting.MediaType

open Text

/-- A double quote inside quotes has a backslash before it; nothing else is changed. -/
def escapeQuotes : List Char → List Char
  | [] => []
  | c :: rest => if c = '"' then '\\' :: '"' :: escapeQuotes rest else c :: escapeQuotes rest

def writeValue (value : List Char) : List Char :=
  if isToken value then value else '"' :: escapeQuotes value ++ ['"']

def writeParameter (parameter : List Char × List Char) : List Char :=
  ';' :: parameter.1 ++ '=' :: writeValue parameter.2

def write (m : MediaType) : List Char :=
  m.type ++ '/' :: m.subtype ++ m.parameters.flatMap writeParameter

def text (m : MediaType) : String := String.ofList m.write

def writeList (ms : List MediaType) : List Char := [',', ' '].intercalate (ms.map write)

def shown (m : MediaType) : String := "MediaType(" ++ quoted m.text ++ ")"

theorem write_value_token {value : List Char} (token : isToken value = true) :
    writeValue value = value := by simp [writeValue, token]

example : all.write = ['*', '/', '*'] := rfl

end HandlerRouting.MediaType
