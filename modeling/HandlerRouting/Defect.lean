import HandlerRouting.Handler
import HandlerRouting.Route

/-!
Defects: what can be wrong with the declarations of handlers. A defect is a fault of the code that
declares them; it names what it found, and has a message and metadata for structured reports. Each
is an `ExceptionDispatchError`, and all but the general ones are a `ConfigurationError`:
`NoExceptionTypesError`, `InvalidMediaTypeError` and `AmbiguousMappingError` among them.
-/

namespace HandlerRouting

inductive Defect where
  | general (message : String) (metadata : List (String × Datum))
  | declaration (message : String) (metadata : List (String × Datum))
  | noExceptionTypes (function : String) (reason : Option String)
  | invalidMediaType (given : Datum) (reason function : Option String)
  | ambiguous (route : Route) (existing candidate : String)

namespace Defect

def kinds : Defect → List String
  | general .. => ["ExceptionDispatchError"]
  | declaration .. => ["ConfigurationError", "ExceptionDispatchError"]
  | noExceptionTypes .. => ["NoExceptionTypesError", "ConfigurationError", "ExceptionDispatchError"]
  | invalidMediaType .. => ["InvalidMediaTypeError", "ConfigurationError", "ExceptionDispatchError"]
  | ambiguous .. => ["AmbiguousMappingError", "ConfigurationError", "ExceptionDispatchError"]

def clause (lead : String) : Option String → String
  | none => ""
  | some part => if part.isEmpty then "" else lead ++ part

def message (h : Hierarchy) : Defect → String
  | general message _ | declaration message _ => message
  | noExceptionTypes function reason =>
    "No exception types mapped to " ++ function ++ clause ": " reason
  | invalidMediaType given reason function =>
    "Invalid media type [" ++ given.plain ++ "]" ++ clause ": " reason ++
      clause " declared on exception handler " function
  | ambiguous route existing candidate =>
    "Ambiguous exception handler mapped for [" ++ route.text h ++ "]: \x7b" ++ existing ++ ", " ++
      candidate ++ "\x7d"

def optionalText : Option String → Datum
  | none => .null
  | some s => .text s

def metadata (h : Hierarchy) : Defect → List (String × Datum)
  | general _ metadata | declaration _ metadata => metadata
  | noExceptionTypes function _ => [("function", .text function)]
  | invalidMediaType given reason function =>
    [("media_type", given), ("reason", optionalText reason), ("function", optionalText function)]
  | ambiguous route existing candidate =>
    [("key", .text (route.text h)), ("existing", .text existing), ("candidate", .text candidate)]

def isDeclaration : Defect → Bool
  | general .. => false
  | _ => true

end Defect

end HandlerRouting
