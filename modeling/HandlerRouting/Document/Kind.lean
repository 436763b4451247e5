import HandlerRouting.Document.Node

/-!
Kinds of nodes. A tag names a kind; a plain scalar without a tag has the kind of value that it is
written like, and is a text otherwise.
-/

namespace HandlerRouting.Document

inductive Kind where
  | nothing
  | truth
  | whole
  | real
  | binary
  | timestamp
  | text
  | list
  | record
  | set
  | pairs
  | merge
  | default
deriving DecidableEq, Repr

namespace Kind

def names : List (String × Kind) := [
  ("null", nothing), ("bool", truth), ("int", whole), ("float", real), ("binary", binary),
  ("timestamp", timestamp), ("str", text), ("seq", list), ("map", record), ("set", set),
  ("omap", pairs), ("pairs", pairs), ("merge", merge), ("value", default)]

def ofName? (name : List Char) : Option Kind :=
  names.findSome? fun (word, kind) =>
    if name = Node.formatPrefix ++ word.toList then some kind else none

/-! ## Plain scalars -/

def truthWords : List String := ["yes", "true", "on"]

def untruthWords : List String := ["no", "false", "off"]

def spelled (words : List String) (s : List Char) : Bool :=
  words.any fun word =>
    let lowered := word.toList
    s == lowered || s == lowered.map Char.toUpper ||
      s == (lowered.take 1).map Char.toUpper ++ lowered.drop 1

def looksNothing (s : List Char) : Bool := s.isEmpty || s == ['~'] || spelled ["null"] s

def figures (member : Char → Bool) (s : List Char) : Bool :=
  !s.isEmpty && s.all fun c => member c || c = '_'

def opensWith (first : Char → Bool) (s : List Char) : Bool :=
  s.head?.any first && (s.drop 1).all fun c => c.isDigit || c = '_'

def partsAt (mark : Char) : List Char → List (List Char)
  | [] => [[]]
  | c :: rest =>
    match partsAt mark rest with
    | [] => [[c]]
    | first :: others => if c = mark then [] :: first :: others else (c :: first) :: others

def isSixtieth : List Char → Bool
  | [c] => c.isDigit
  | [c, d] => '0' ≤ c && c ≤ '5' && d.isDigit
  | _ => false

def looksWhole (s : List Char) : Bool :=
  match (Numeral.readSign s).2 with
  | '0' :: 'b' :: digits => figures (fun c => c = '0' || c = '1') digits
  | '0' :: 'x' :: digits => figures (fun c => (ScalarText.hexValue? c).isSome) digits
  | '0' :: digits => digits.all fun c => ('0' ≤ c && c ≤ '7') || c = '_'
  | body =>
    match partsAt ':' body with
    | first :: others =>
      opensWith (fun c => '1' ≤ c && c ≤ '9') first && others.all isSixtieth
    | [] => false

def isScale : List Char → Bool
  | [] => true
  | mark :: sign :: digits =>
    (mark = 'e' || mark = 'E') && (sign = '+' || sign = '-') && !digits.isEmpty &&
      digits.all Char.isDigit
  | _ => false

def undefinedWords : List String := ["nan", "NaN", "NAN"]

/-- Real numbers have a point. Digits stand in front of it, unless there is no sign either; behind
it there may be a scale, but not in base sixty. -/
def looksReal (s : List Char) : Bool :=
  let body := (Numeral.readSign s).2
  let whole := body.takeWhile (· ≠ '.')
  match body.dropWhile (· ≠ '.') with
  | '.' :: rest =>
    let isFigure := fun c : Char => c.isDigit || c = '_'
    let scaled := isScale (rest.dropWhile isFigure)
    match partsAt ':' whole with
    | [[]] =>
      spelled ["inf"] rest || (s.head? = some '.' &&
        ((rest.head?.any Char.isDigit && scaled) || undefinedWords.contains (String.ofList rest)))
    | [digits] => opensWith Char.isDigit digits && scaled
    | first :: others =>
      opensWith Char.isDigit first && others.all isSixtieth && rest.all isFigure
    | [] => false
  | _ => false

def ofPlain (s : List Char) : Kind :=
  if looksNothing s then nothing
  else if spelled (truthWords ++ untruthWords) s then truth
  else if looksReal s then real
  else if looksWhole s then whole
  else if (Timestamp.recognize? s).isSome then timestamp
  else if s = ['<', '<'] then merge
  else if s = ['='] then default
  else text

def ofTag? (implied : Kind) : Tag → Option Kind
  | .implied => some implied
  | .named name => ofName? name

example : ofPlain ['1', ':', '3', '0'] = whole := by decide +kernel

example : ofPlain ['.'] = text := by decide +kernel

end Kind

end HandlerRouting.Document
