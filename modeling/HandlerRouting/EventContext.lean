import HandlerRouting.Settings

/-!
The context of an event: up to five texts, given as data. The record is `LogContext`, and
`eventFields` is what `_normalize_fields` makes of it.
-/

namespace HandlerRouting

structure EventContext where
  fields : List (String × Option String)

namespace EventContext

def names : List String := ["container", "function", "exception_type", "media_type", "operation"]

def textOf (fields : List (Datum × Datum)) (name : String) :
    Except FieldReport (String × Option String) :=
  match Datum.field? fields name with
  | none | some .null => .ok (name, none)
  | some (.text s) => .ok (name, some s)
  | some _ => .error ⟨some (.named name), .textWanted⟩

def ofDatum (data : Datum) : Except (List FieldReport) EventContext :=
  match data with
  | .record fields =>
    let read := names.map (textOf fields)
    let reports := read.flatMap Settings.reportOf
    if reports.isEmpty then .ok ⟨read.filterMap Except.toOption⟩ else .error reports
  | _ => .error [⟨none, .recordWanted "LogContext"⟩]

def eventFields (c : EventContext) : List (String × String) :=
  c.fields.filterMap fun (name, value) => value.map (name, ·)

end EventContext

end HandlerRouting
