import HandlerRouting.Binary64.Arithmetic
import HandlerRouting.Document.Kind
import HandlerRouting.Text.Base64
import HandlerRouting.Text.LowerCase

/-!
Values of scalars, each of a kind that its tag or its form gives. A tag may ask for a value that the
scalar is not written like; that is a fault of the document.
-/

namespace HandlerRouting.Document.ScalarValue

open Text

def dropUnderscores (s : List Char) : List Char := s.filter (· ≠ '_')

def signed (s : List Char) : Except Fault (Bool × List Char) :=
  if s.isEmpty then .error .noDigits else .ok (Numeral.readSign s)

/-! ## Whole numbers -/

def baseLetter (base : Nat) : List Char :=
  if base = 2 then ['b', 'B']
  else if base = 8 then ['o', 'O']
  else if base = 16 then ['x', 'X']
  else []

def dropBase (base : Nat) : List Char → List Char
  | '0' :: c :: rest => if (baseLetter base).contains c then rest else '0' :: c :: rest
  | s => s

def literal (base : Nat) (s : List Char) : Except Fault Int :=
  let (negative, body) := Numeral.readSign ((Numeral.trimMargin s).map Numeral.plainDigit)
  let digits := dropBase base body
  let value? := fun c => (ScalarText.hexValue? c).filter (· < base)
  let run := digits.takeWhile fun c => (value? c).isSome
  let size := run.foldl (fun n c => base * n + (value? c).getD 0) 0
  if base = 10 ∧ Fault.mostDigits < run.length then .error (.longWhole run.length)
  else if run.isEmpty || run.length < digits.length then .error (.noWhole base s)
  else .ok (if negative then -(size : Int) else size)

def sixtieths (parts : List (List Char)) : Except Fault Int :=
  parts.foldlM (fun n part => (literal 10 part).map (60 * n + ·)) 0

def wholeSize : List Char → Except Fault Int
  | [] => .error .noDigits
  | ['0'] => .ok 0
  | '0' :: 'b' :: digits => literal 2 digits
  | '0' :: 'x' :: digits => literal 16 digits
  | '0' :: digits => literal 8 ('0' :: digits)
  | body => if body.contains ':' then sixtieths (Kind.partsAt ':' body) else literal 10 body

def wholeOf (s : List Char) : Except Fault Int := do
  let (negative, body) ← signed (dropUnderscores s)
  let size ← wholeSize body
  return if negative then -size else size

/-! ## Real numbers -/

def realLiteral (s : List Char) : Except Fault Binary64 :=
  match Numeral.read? s with
  | some numeral => .ok (numeral.value?.getD .undefined)
  | none => .error (.noReal s)

def addSixtieths : (weight : Nat) → (total : Binary64) → List Binary64 → Except Fault Binary64
  | _, total, [] => .ok total
  | weight, total, part :: rest =>
    match Binary64.ofNat? weight with
    | some factor => addSixtieths (60 * weight) (total.sum (part.product factor)) rest
    | none => .error .tooManyPlaces

def realOf (s : List Char) : Except Fault Binary64 := do
  let (negative, body) ← signed (lower (dropUnderscores s))
  let size ←
    if body = ['.', 'i', 'n', 'f'] then .ok ⟨false, Binary64.infinitePattern⟩
    else if body = ['.', 'n', 'a', 'n'] then .ok .undefined
    else if body.contains ':' then do
      let parts ← (Kind.partsAt ':' body).mapM realLiteral
      addSixtieths 1 .zero parts.reverse
    else realLiteral body
  return if negative then size.negate else size

/-! ## All kinds -/

def truthOf (s : List Char) : Except Fault Bool :=
  let word := String.ofList (lower s)
  if Kind.truthWords.contains word then .ok true
  else if Kind.untruthWords.contains word then .ok false
  else .error (.noTruth (lower s))

def timestampOf (s : List Char) : Except Fault Timestamp :=
  let written := if s.getLast? = some '\n' then s.dropLast else s
  match Timestamp.read? written with
  | none => .error .noTimestamp
  | some t =>
    match t.flaw? with
    | some flaw => .error (.noDate flaw)
    | none => .ok t

def bytesOf (s : List Char) : Except Fault (List UInt8) :=
  match if s.all fun c => c.toNat < 0x80 then Base64.bytes? s else none with
  | some bytes => .ok bytes
  | none => .error .malformed

def textOf (s : ScalarText) : Datum :=
  if s.broken then .brokenText (String.ofList s.text) else .text (String.ofList s.text)

def ofScalar (kind : Kind) (s : ScalarText) : Except Fault Datum :=
  match kind with
  | .nothing => .ok .null
  | .truth => (truthOf s.text).map .bool
  | .whole => (wholeOf s.text).map .int
  | .real => (realOf s.text).map .real
  | .binary => (bytesOf s.text).map .bytes
  | .timestamp => (timestampOf s.text).map .timestamp
  | .text => .ok (textOf s)
  | _ => .error .malformed

example : (wholeOf ['-', '1', '_', '0']).toOption = some (-10) := by
  decide +kernel

example : (wholeOf ['1', ':', '3', '0']).toOption = some 90 := by decide +kernel

example : wholeOf ['+'] = .error .noDigits := rfl

end HandlerRouting.Document.ScalarValue
