import HandlerRouting.Defect
import HandlerRouting.Event

/-!
Lines of events. The values of an event come from anywhere: names of classes, declared texts,
requests. The names of its fields are the library's own.
-/

namespace HandlerRouting

def Text.lineBreaks : List Char :=
  ['\n', '\x0b', '\x0c', '\r', '\x1c', '\x1d', '\x1e', '\u0085', '\u2028', '\u2029']

namespace Event

def fieldNames : List String :=
  ["container", "function", "exception_type", "media_type", "candidates", "key", "handlers",
    "mappings", "cache_capacity", "reason", "existing", "candidate"]

/-- All fields have names that this library gives them. -/
def WellNamed (e : Event) : Prop := e.fields.map Prod.fst ⊆ fieldNames

/-- An event that is written as one line, in which all can be read. -/
structure OneLine (e : Event) : Prop where
  printable : ∀ c ∈ e.lineChars, Text.isPrintable c = true
  unbroken : ∀ c ∈ Text.lineBreaks, c ∉ e.lineChars

end Event

def Defect.WellNamed (h : Hierarchy) (defect : Defect) : Prop :=
  (defect.metadata h).map Prod.fst ⊆ Event.fieldNames

end HandlerRouting
