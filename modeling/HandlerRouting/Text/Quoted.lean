import HandlerRouting.Text.Printable

/-!
Quoted text: how a string shows inside a message or an event line. The mark is the apostrophe,
unless the text has one and no double quote. Everything else than printable characters is escaped,
so a quoted text never breaks a line.
-/

namespace HandlerRouting.Text

def hexDigit (value : Nat) : Char :=
  if value < 10 then Char.ofNat (0x30 + value) else Char.ofNat (0x57 + value)

def hexFixed : (width : Nat) → Nat → List Char
  | 0, _ => []
  | width + 1, value => hexFixed width (value / 16) ++ [hexDigit (value % 16)]

def numericEscape (code : Nat) : List Char :=
  if code < 0x100 then '\\' :: 'x' :: hexFixed 2 code
  else if code < 0x10000 then '\\' :: 'u' :: hexFixed 4 code
  else '\\' :: 'U' :: hexFixed 8 code

def escapeChar (mark c : Char) : List Char :=
  if c = mark ∨ c = '\\' then ['\\', c]
  else if c = '\n' then ['\\', 'n']
  else if c = '\r' then ['\\', 'r']
  else if c = '\t' then ['\\', 't']
  else if isPrintable c then [c]
  else numericEscape c.toNat

def quoteMark (s : List Char) : Char :=
  if s.contains '\'' && !s.contains '"' then '"' else '\''

def quoteChars (s : List Char) : List Char :=
  let mark := quoteMark s
  mark :: s.flatMap (escapeChar mark) ++ [mark]

def quoted (s : String) : String := String.ofList (quoteChars s.toList)

example : quoteChars ['\''] = ['"', '\'', '"'] := by decide

example :
    quoteChars ['\x00', '\n'] = ['\'', '\\', 'x', '0', '0', '\\', 'n', '\''] := by decide

end HandlerRouting.Text
