import HandlerRouting.MediaType.Reader
import HandlerRouting.MediaType.Written

/-!
Changing parameters. The result is read again from its components, so it obeys every rule that a
freshly read media type obeys. `withParameters` is `with_parameters`.
-/

namespace HandlerRouting.MediaType

def reservedName : List Char := ['s', 'e', 'l', 'f']

def reservedMessage : String :=
  "MediaType.with_parameters() got multiple values for argument '" ++ String.ofList reservedName ++
    "'"

def withParameters (m : MediaType) (added : List (List Char × List Char)) :
    Except Refusal MediaType :=
  let merged := Entries.assignAll added m.parameters
  make m.type m.subtype (merged.map fun (name, value) => (name, writeValue value))

end HandlerRouting.MediaType
