import HandlerRouting.Datum

/-!
Flaws of the data that records are read from, and reports of them. Each flaw has a short name for
programs and a message for people. They are what `ResolverConfig` and `LogContext` are refused with.
-/

namespace HandlerRouting

inductive FieldFlaw where
  | wholeWanted
  | wholeUnreadable
  | wholeTooLarge
  | fraction
  | infinite
  | notPositive
  | textWanted
  | textBroken
  | refused (message : String)
  | truthWanted
  | truthUnreadable
  | unknownField
  | keyNotText
  | recordWanted (model : String)
  | frozen
deriving DecidableEq, Repr

namespace FieldFlaw

def code : FieldFlaw → String
  | wholeWanted => "int_type"
  | wholeUnreadable => "int_parsing"
  | wholeTooLarge => "int_parsing_size"
  | fraction => "int_from_float"
  | infinite => "finite_number"
  | notPositive => "greater_than"
  | textWanted => "string_type"
  | textBroken => "string_unicode"
  | refused _ => "value_error"
  | truthWanted => "bool_type"
  | truthUnreadable => "bool_parsing"
  | unknownField => "extra_forbidden"
  | keyNotText => "invalid_key"
  | recordWanted _ => "model_type"
  | frozen => "frozen_instance"

def message : FieldFlaw → String
  | wholeWanted => "Input should be a valid integer"
  | wholeUnreadable => "Input should be a valid integer, unable to parse string as an integer"
  | wholeTooLarge => "Unable to parse input string as an integer, exceeded maximum size"
  | fraction => "Input should be a valid integer, got a number with a fractional part"
  | infinite => "Input should be a finite number"
  | notPositive => "Input should be greater than 0"
  | textWanted => "Input should be a valid string"
  | textBroken => "Input should be a valid string, unable to parse raw data as a unicode string"
  | refused message => "Value error, " ++ message
  | truthWanted => "Input should be a valid boolean"
  | truthUnreadable => "Input should be a valid boolean, unable to interpret input"
  | unknownField => "Extra inputs are not permitted"
  | keyNotText => "Keys should be strings"
  | recordWanted model => "Input should be a valid dictionary or instance of " ++ model
  | frozen => "Instance is frozen"

end FieldFlaw

inductive FieldName where
  | named (name : String)
  | numbered (number : Int)
deriving DecidableEq, Repr

namespace FieldName

def fitsWord (n : Int) : Bool := -0x8000000000000000 ≤ n && n < 0x8000000000000000

def mostDigits : Nat := 4300

def longNumberShown : String := "<unprintable int object>"

def ofKey : Datum → FieldName
  | .text s | .brokenText s => named s
  | .bool value => numbered (if value then 1 else 0)
  | .int n =>
    if fitsWord n then numbered n
    else if n.natAbs < Nat.pow 10 mostDigits then named (toString n)
    else named longNumberShown
  | other => named other.shown

def datum : FieldName → Datum
  | named name => .text name
  | numbered number => .int number

end FieldName

structure FieldReport where
  field : Option FieldName
  flaw : FieldFlaw
deriving DecidableEq, Repr

end HandlerRouting
