import HandlerRouting.Datum

/-!
Faults of documents: why a text holds no data. Either it is not well formed, or one of its scalars
is written like a value that does not exist.
-/

namespace HandlerRouting.Document

inductive Fault where
  | malformed
  | noCharacter (code : Nat)
  | noWhole (base : Nat) (text : List Char)
  | longWhole (digits : Nat)
  | noReal (text : List Char)
  | noDigits
  | noTruth (text : List Char)
  | noTimestamp
  | noDate (flaw : CalendarFlaw)
  | tooManyPlaces
deriving DecidableEq, Repr

namespace Fault

def code : Fault → String
  | malformed => "YAMLError"
  | noCharacter code => if code < 0x80000000 then "ValueError" else "OverflowError"
  | noWhole .. | longWhole _ | noReal _ | noDate _ => "ValueError"
  | noDigits => "IndexError"
  | noTruth _ => "KeyError"
  | noTimestamp => "AttributeError"
  | tooManyPlaces => "OverflowError"

def mostDigits : Nat := 4300

def message : Fault → String
  | malformed => ""
  | noCharacter code =>
    if code < 0x80000000 then "chr() arg not in range(0x110000)"
    else "Python int too large to convert to C int"
  | noWhole base text =>
    "invalid literal for int() with base " ++ toString base ++ ": " ++
      String.ofList ((Text.quoteChars text).take 200)
  | longWhole digits =>
    "Exceeds the limit (" ++ toString mostDigits ++ " digits) for integer string conversion: " ++
      "value has " ++ toString digits ++
      " digits; use sys.set_int_max_str_digits() to increase the limit"
  | noReal text => "could not convert string to float: " ++ String.ofList (Text.quoteChars text)
  | noDigits => "string index out of range"
  | noTruth text => String.ofList (Text.quoteChars text)
  | noTimestamp => "'NoneType' object has no attribute 'groupdict'"
  | noDate flaw => flaw.message
  | tooManyPlaces => "int too large to convert to float"

end Fault

end HandlerRouting.Document
