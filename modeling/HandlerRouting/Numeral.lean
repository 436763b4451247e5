import HandlerRouting.Binary64
import HandlerRouting.Text.Blank
import HandlerRouting.Text.Digit

/-!
Numerals: the texts that stand for a floating-point number. Digits of every script count, one
underscore may stand between two digits, blanks around the numeral do not, and the words for
infinity and for no number at all are read in any case.
-/

namespace HandlerRouting

inductive Numeral where
  | finite (negative : Bool) (coefficient : Nat) (exponent : Int)
  | infinite (negative : Bool)
  | undefined
deriving DecidableEq, Repr

namespace Numeral

open Text

/-- Blanks around a numeral: the information separators are not among them. -/
def isMargin (c : Char) : Bool := isBlank c && !(0x1c ≤ c.toNat && c.toNat ≤ 0x1f)

def trimMargin (s : List Char) : List Char :=
  ((s.dropWhile isMargin).reverse.dropWhile isMargin).reverse

def plainDigit (c : Char) : Char :=
  match digitValue? c with
  | some value => Char.ofNat (0x30 + value)
  | none => c

def dropUnderscores (afterDigit : Bool) : List Char → Option (List Char)
  | [] => some []
  | '_' :: c :: rest =>
    if afterDigit && c.isDigit then (dropUnderscores true rest).map (c :: ·) else none
  | c :: rest => if c = '_' then none else (dropUnderscores c.isDigit rest).map (c :: ·)

def readSign : List Char → Bool × List Char
  | '-' :: rest => (true, rest)
  | '+' :: rest => (false, rest)
  | s => (false, s)

def digitsValue (s : List Char) : Nat :=
  s.foldl (fun value c => 10 * value + (c.toNat - 0x30)) 0

def readPower (s : List Char) : Option Int :=
  let (negative, digits) := readSign s
  if digits.isEmpty || !digits.all Char.isDigit then none
  else some (if negative then -(digitsValue digits : Int) else digitsValue digits)

def readScale : List Char → Option Int
  | [] => some 0
  | c :: rest => if c = 'e' ∨ c = 'E' then readPower rest else none

def readUnsigned (s : List Char) : Option (Nat × Int) :=
  let whole := s.takeWhile Char.isDigit
  let afterWhole := s.dropWhile Char.isDigit
  let (fraction, afterFraction) := match afterWhole with
    | '.' :: rest => (rest.takeWhile Char.isDigit, rest.dropWhile Char.isDigit)
    | _ => ([], afterWhole)
  if whole.isEmpty && fraction.isEmpty then none
  else (readScale afterFraction).map fun scale =>
    (digitsValue (whole ++ fraction), scale - fraction.length)

def infinityWords : List (List Char) := [['i', 'n', 'f'], ['i', 'n', 'f', 'i', 'n', 'i', 't', 'y']]

def read? (s : List Char) : Option Numeral := do
  let plain ← dropUnderscores false ((trimMargin s).map plainDigit)
  let (negative, body) := readSign plain
  let word := body.map Char.toLower
  if infinityWords.contains word then some (.infinite negative)
  else if word = ['n', 'a', 'n'] then some .undefined
  else (readUnsigned body).map fun (coefficient, exponent) =>
    .finite negative coefficient exponent

/-- The nearest floating-point number; none where the numeral stands for no number. -/
def value? : Numeral → Option Binary64
  | .finite negative coefficient exponent =>
    some ⟨negative, Binary64.patternOfDecimal coefficient exponent⟩
  | .infinite negative => some ⟨negative, Binary64.infinitePattern⟩
  | .undefined => none

example : read? ['0', '.', '5'] = some (.finite false 5 (-1)) := by decide

example : read? ['1', '_', '_', '0'] = none := by decide

end Numeral

end HandlerRouting
