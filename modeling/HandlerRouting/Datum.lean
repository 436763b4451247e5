import HandlerRouting.Binary64.Shortest
import HandlerRouting.Text.Quoted
import HandlerRouting.Timestamp

/-!
Data that settings, declarations and requests hand over as they are: what is put where a text or a
number was wanted still has to be shown in messages. The keys of a record are data too; most are
texts.
-/

namespace HandlerRouting

inductive Datum where
  | null
  | bool (value : Bool)
  | int (value : Int)
  | real (value : Binary64)
  | text (value : String)
  | brokenText (shown : String)
  | bytes (values : List UInt8)
  | timestamp (value : Timestamp)
  | list (items : List Datum)
  | set (members : List Datum)
  | record (fields : List (Datum × Datum))
deriving Inhabited

namespace Datum

open Text

def pointed (digits : List Char) (position : Int) : List Char :=
  if position ≤ 0 then '0' :: '.' :: (List.replicate (-position).toNat '0' ++ digits)
  else
    let whole := position.toNat
    if digits.length ≤ whole then
      digits ++ List.replicate (whole - digits.length) '0' ++ ['.', '0']
    else digits.take whole ++ '.' :: digits.drop whole

def scaled (digits : List Char) (power : Int) : List Char :=
  let fraction := digits.drop 1
  let size := Nat.toDigits 10 power.natAbs
  digits.take 1 ++ (if fraction.isEmpty then [] else '.' :: fraction) ++
    'e' :: (if power < 0 then '-' else '+') :: (if size.length < 2 then '0' :: size else size)

/-- Real numbers show as their shortest decimal, positional between 1e-4 and 1e16. -/
def showReal (x : Binary64) : String :=
  let (coefficient, exponent) := x.shortest
  let given := Nat.toDigits 10 coefficient
  let digits := if coefficient = 0 then ['0'] else (given.reverse.dropWhile (· = '0')).reverse
  let position : Int := if coefficient = 0 then 1 else exponent + given.length
  if x.isUndefined then "nan" else
  let size :=
    if x.magnitude = Binary64.infinitePattern then ['i', 'n', 'f']
    else if -4 < position ∧ position ≤ 16 then pointed digits position
    else scaled digits (position - 1)
  String.ofList (if x.negative then '-' :: size else size)

def showBytes (values : List UInt8) : String :=
  let chars := values.map fun b => Char.ofNat b.toNat
  let mark := quoteMark chars
  let escape := fun c : Char =>
    if 0x7f ≤ c.toNat then numericEscape c.toNat else escapeChar mark c
  String.ofList ('b' :: mark :: chars.flatMap escape ++ [mark])

def showTimestamp : Timestamp → String
  | .date d => d.shown
  | .moment m => m.shown

mutual

def shown : Datum → String
  | null => "None"
  | bool value => if value then "True" else "False"
  | int value => toString value
  | real value => showReal value
  | text value | brokenText value => quoted value
  | bytes values => showBytes values
  | timestamp value => showTimestamp value
  | list items => "[" ++ ", ".intercalate (shownItems items) ++ "]"
  | set members =>
    if members.isEmpty then "set()"
    else "\x7b" ++ ", ".intercalate (shownItems members) ++ "\x7d"
  | record fields => "\x7b" ++ ", ".intercalate (shownFields fields) ++ "\x7d"

def shownItems : List Datum → List String
  | [] => []
  | item :: rest => shown item :: shownItems rest

def shownFields : List (Datum × Datum) → List String
  | [] => []
  | (key, value) :: rest => (shown key ++ ": " ++ shown value) :: shownFields rest

end

def plain : Datum → String
  | text value => value
  | other => shown other

def isNothing : Datum → Bool
  | null => true
  | bool value => !value
  | int value => value == 0
  | real value => value.magnitude == 0
  | text value => value.isEmpty
  | brokenText _ | timestamp _ => false
  | bytes values => values.isEmpty
  | list items | set items => items.isEmpty
  | record fields => fields.isEmpty

def kind : Datum → String
  | null => "NoneType"
  | bool _ => "bool"
  | int _ => "int"
  | real _ => "float"
  | text _ | brokenText _ => "str"
  | bytes _ => "bytes"
  | timestamp (.date _) => "date"
  | timestamp (.moment _) => "datetime"
  | list _ => "list"
  | set _ => "set"
  | record _ => "dict"

/-- Whether a datum may be the key of a record. Whatever holds other data may not. -/
def isKey : Datum → Bool
  | list _ | set _ | record _ => false
  | _ => true

def whole? : Datum → Option Int
  | bool value => some (if value then 1 else 0)
  | int value => some value
  | real value => value.integer?
  | _ => none

mutual

/-- Numbers of the same value are the same, and the order of a record's fields does not matter. -/
def same : Datum → Datum → Bool
  | null, null => true
  | text a, text b | brokenText a, brokenText b => a == b
  | bytes a, bytes b => a == b
  | timestamp a, timestamp b => a == b
  | list a, list b | set a, set b => sameItems a b
  | record a, record b => a.length == b.length && fieldsIn a b
  | real a, real b => a.place == b.place
  | a, b =>
    match a.whole?, b.whole? with
    | some m, some n => m == n
    | _, _ => false

def sameItems : List Datum → List Datum → Bool
  | [], [] => true
  | a :: as, b :: bs => same a b && sameItems as bs
  | _, _ => false

def fieldsIn : List (Datum × Datum) → List (Datum × Datum) → Bool
  | [], _ => true
  | (key, value) :: rest, fields =>
    (match fields.find? fun (other, _) => same key other with
      | some (_, other) => same value other
      | none => false) && fieldsIn rest fields

end

instance : BEq Datum := ⟨same⟩

def ofFields (fields : List (String × Datum)) : Datum :=
  record (fields.map fun (name, value) => (text name, value))

def field? (fields : List (Datum × Datum)) (name : String) : Option Datum :=
  (fields.find? fun (key, _) => key == text name).map Prod.snd

example : same (bool true) (int 1) = true := by decide

end Datum

end HandlerRouting
