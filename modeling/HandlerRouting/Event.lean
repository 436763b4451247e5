import HandlerRouting.Datum
import HandlerRouting.Entries

/-!
Events: what is reported while handlers are found, tables built and exceptions resolved. An event is
written as one line of `name=value` pairs with quoted values. A channel is one of `log_error`,
`log_warn`, `log_info`, `log_debug` and `log_trace`, and `fieldsOf` is `_normalize_fields`.
-/

namespace HandlerRouting

inductive Severity where
  | debug
  | info
  | warning
  | error
deriving DecidableEq, Repr

namespace Severity

def rank : Severity → Nat
  | debug => 10
  | info => 20
  | warning => 30
  | error => 40

def text : Severity → String
  | debug => "debug"
  | info => "info"
  | warning => "warning"
  | error => "error"

def names : List (String × Severity) :=
  [("DEBUG", debug), ("INFO", info), ("WARNING", warning), ("ERROR", error)]

end Severity

/-- How an event was reported. A trace is a debug event with a hint. -/
inductive Channel where
  | trace
  | debug
  | info
  | warn
  | error
deriving DecidableEq, Repr

def Channel.names : List (String × Channel) :=
  [("trace", trace), ("debug", debug), ("info", info), ("warn", warn), ("error", error)]

def Channel.severity : Channel → Severity
  | trace | debug => .debug
  | info => .info
  | warn => .warning
  | error => .error

structure Event where
  channel : Channel
  text : String
  fields : List (String × String)
deriving DecidableEq, Repr

namespace Event

open Text

def severity (e : Event) : Severity := e.channel.severity

def hints (e : Event) : List (String × String) :=
  if e.channel = .trace then [("level_hint", "trace")] else []

def exceptionField : String := "exc_info"

/-- The pairs of an event's line: its text, the hint of a trace, the fields, and the severity in the
place of a field of that name or else at the end. -/
def pairs (e : Event) : List (String × String) :=
  ("event", e.text) ::
    Entries.assign "level" e.severity.text
      (e.hints ++ e.fields.filter fun (name, _) => name ≠ exceptionField)

def lineChars (e : Event) : List Char :=
  [' '].intercalate (e.pairs.map fun (name, value) => name.toList ++ '=' :: quoteChars value.toList)

def line (e : Event) : String := String.ofList e.lineChars

def passes (threshold : Option Severity) (e : Event) : Bool :=
  match threshold with
  | some least => least.rank ≤ e.severity.rank
  | none => false

/-! ## Fields that an event cannot have -/

inductive Clash where
  | hint
  | argument (name : String)
  | method
deriving DecidableEq, Repr

def argumentNames : List String := ["self", "event"]

def methodName : String := "method_name"

def clash? (e : Event) : Option Clash :=
  let names := e.fields.map Prod.fst
  if e.hints.any fun (hint, _) => names.contains hint then some .hint
  else match names.find? argumentNames.contains with
    | some name => some (.argument name)
    | none => if names.contains methodName then some .method else none

def Clash.message (e : Event) : Clash → String
  | .hint =>
    "structlog.stdlib.BoundLogger.debug() got multiple values for keyword argument 'level_hint'"
  | .argument name =>
    "BoundLogger." ++ e.severity.text ++ "() got multiple values for argument '" ++ name ++ "'"
  | .method =>
    "BoundLogger._proxy_to_logger() got multiple values for argument '" ++ methodName ++ "'"

def fieldsOf (data : List (String × Datum)) : List (String × String) :=
  data.map fun (name, value) => (name, value.plain)

end Event

end HandlerRouting
