import HandlerRouting.Settings.Flaw

/-!
Whole numbers, read leniently: from numbers, from truth values, and from texts. A text may have
blanks around its number, one plus sign, noughts in front, single underscores among the digits and
a point with noughts behind it.
-/

namespace HandlerRouting.Whole

open FieldFlaw

def ofNumeral (s : List Char) : Except FieldFlaw Int :=
  let (negative, digits) := match s with
    | '-' :: rest => (true, rest)
    | _ => (false, s)
  let run := digits.takeWhile Char.isDigit
  let size := Numeral.digitsValue run
  if run.isEmpty || (run.head? = some '0' && 1 < run.length) then .error wholeUnreadable
  -- Too many characters are refused before the end of the text is looked at.
  else if FieldName.mostDigits < run.length + (if negative then 1 else 0) then .error wholeTooLarge
  else if run.length < digits.length then .error wholeUnreadable
  else .ok (if negative then -(size : Int) else size)

def opensNumber (c : Char) : Bool := c = '-' || ('1' ≤ c && c ≤ '9')

def afterNoughts (last : Char) : List Char → Option (List Char)
  | [] => some [last]
  | c :: rest =>
    if c = '0' ∨ c = '_' then afterNoughts c rest
    else if opensNumber c then some (c :: rest)
    -- Nothing but a fraction follows, so the last nought is kept.
    else if c = '.' then some (last :: '.' :: rest)
    else none

def dropNoughts : List Char → Option (List Char)
  | [] => none
  | c :: rest =>
    if c = '0' then afterNoughts c rest
    else if opensNumber c then some (c :: rest)
    else none

def dropPlus : List Char → Option (List Char)
  | '+' :: '-' :: _ => none
  | '+' :: rest => some rest
  | s => some s

def dropFraction (s : List Char) : List Char :=
  match s.dropWhile (· ≠ '.') with
  | '.' :: '0' :: rest => if rest.all (· = '0') then s.takeWhile (· ≠ '.') else s
  | _ => s

def hasTwins : List Char → Bool
  | '_' :: '_' :: _ => true
  | _ :: rest => hasTwins rest
  | [] => false

def dropUnderscores (s : List Char) : List Char :=
  if s.head? = some '_' || s.getLast? = some '_' || hasTwins s then s else s.filter (· ≠ '_')

def bared (s : List Char) : Option (List Char) :=
  ((dropPlus (Numeral.trimMargin s)).bind dropNoughts).map fun t => dropUnderscores (dropFraction t)

def ofText (s : List Char) : Except FieldFlaw Int :=
  match ofNumeral s, bared s with
  | .error wholeUnreadable, some numeral => ofNumeral numeral
  | read, _ => read

def ofReal (x : Binary64) : Except FieldFlaw Int :=
  if Binary64.infinitePattern ≤ x.magnitude then .error infinite
  else match x.integer? with
    | none => .error fraction
    | some n => if n.natAbs < 0x8000000000000000 then .ok n else .error wholeTooLarge

def ofDatum : Datum → Except FieldFlaw Int
  | .bool value => .ok (if value then 1 else 0)
  | .int value => .ok value
  | .real x => ofReal x
  | .text s => ofText s.toList
  | .brokenText _ => .error textBroken
  | .bytes values =>
    match String.fromUTF8? ⟨values.toArray⟩ with
    | some s => ofText s.toList
    | none => .error wholeUnreadable
  | _ => .error wholeWanted

example : ofText [' ', '8', '.', '0', ' '] = .ok 8 := rfl

example : ofText ['8', '.'] = .error wholeUnreadable := rfl

/-- Noughts with underscores among them may stand in front of a minus sign. -/
example : ofText ['0', '_', '-', '1'] = .ok (-1) := rfl

end HandlerRouting.Whole
