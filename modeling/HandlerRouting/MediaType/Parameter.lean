import HandlerRouting.Binary64
import HandlerRouting.MediaType.Basic
import HandlerRouting.MediaType.Charset
import HandlerRouting.Numeral
import HandlerRouting.Text.LowerCase
import HandlerRouting.Text.Token

/-!
Parameter values: what a value between quotes stands for, and which values the charset and the
quality parameter may take. Every other parameter takes any value. `admitValue` makes the checks of
`_check_parameter`, and `quotedContent?` tells what `_is_quoted` does.
-/

namespace HandlerRouting.MediaType

open Text

inductive ValueFlaw where
  | unquoted
  | unknownCharset
  | nulInCharset
  | notNumber
  | outOfRange
deriving DecidableEq, Repr

/-- What stands between two equal quote marks that begin and end a text. -/
def quotedContent? : List Char → Option (List Char)
  | [] => none
  | mark :: rest =>
    if (mark = '"' ∨ mark = '\'') ∧ rest.getLast? = some mark then some rest.dropLast else none

def unescapeQuotes : List Char → List Char
  | '\\' :: '"' :: rest => '"' :: unescapeQuotes rest
  | c :: rest => c :: unescapeQuotes rest
  | [] => []

/-- What a value means: the content of its quotes, or else the token that it has to be. -/
def readValue? (value : List Char) : Option (List Char) :=
  match quotedContent? value with
  | some content => some (unescapeQuotes content)
  | none => if isToken value then some value else none

def qualityOf? (value : List Char) : Option Numeral := Numeral.read? value

def isQuality (x : Binary64) : Bool := Binary64.zero.le x && x.le Binary64.one

/-- What is kept of a value under a parameter name. A charset has to be known and is kept in lower
case; a quality has to be a number from 0 to 1 and is kept as it was written. -/
def admitValue (name value : List Char) : Except ValueFlaw (List Char) :=
  if name = charsetName then
    if value.contains '\x00' then .error .nulInCharset
    else if isKnownCharset value then .ok (lower value)
    else .error .unknownCharset
  else if name = qualityName then
    match qualityOf? value with
    | none => .error .notNumber
    | some numeral =>
      match numeral.value? with
      | none => .error .outOfRange
      | some x => if isQuality x then .ok value else .error .outOfRange
  else .ok value

theorem unescape_nothing {s : List Char} (plain : '\\' ∉ s) : unescapeQuotes s = s := by
  fun_induction unescapeQuotes s with
  | case1 => simp at plain
  | case2 c rest _ ih =>
    simp only [List.mem_cons, not_or] at plain
    rw [ih plain.2]
  | case3 => rfl

example : quotedContent? ['"'] = none := by decide

end HandlerRouting.MediaType
