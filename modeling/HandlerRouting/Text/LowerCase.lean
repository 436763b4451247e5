import HandlerRouting.Text.CodePoints
import HandlerRouting.Text.CasingData

/-!
Lower case of a text. Each character has its own lower-case form, but for the capital sigma: at
the end of a word it becomes the final form, elsewhere the medial one.
-/

namespace HandlerRouting.Text

def isCased (c : Char) : Bool := withinBounds casedBounds c

def isCaseIgnorable (c : Char) : Bool := withinBounds caseIgnorableBounds c

def inRun (code : Nat) (run : Nat × Nat × Nat × Int) : Bool :=
  let (first, last, step, _) := run
  first ≤ code && code ≤ last && (code - first) % step == 0

def lowerChar (c : Char) : List Char :=
  if c.toNat < 0x80 then [c.toLower]
  else if c.toNat = 0x130 then ['i', '\u0307']
  else match lowerRuns.find? (inRun c.toNat) with
    | some (_, _, _, shift) => [Char.ofNat (c.toNat + shift).toNat]
    | none => [c]

def meetsCased (s : List Char) : Bool :=
  match s.dropWhile isCaseIgnorable with
  | [] => false
  | c :: _ => isCased c

/-- A sigma ends a word when a cased letter comes before it and none comes after. The text before
it is given backwards. -/
def sigmaForm (before after : List Char) : Char :=
  if meetsCased before && !meetsCased after then 'ς' else 'σ'

def lowerAfter (before : List Char) : List Char → List Char
  | [] => []
  | c :: rest =>
    (if c = 'Σ' then [sigmaForm before rest] else lowerChar c) ++ lowerAfter (c :: before) rest

def lower (s : List Char) : List Char := lowerAfter [] s

theorem lower_char_ascii {c : Char} (ascii : c.toNat < 0x80) : lowerChar c = [c.toLower] := by
  simp [lowerChar, ascii]

/-- Words end where the last cased letter stands. -/
example : lower ['Ο', 'Σ', '.'] = ['ο', 'ς', '.'] := by decide

example : lower ['Σ'] = ['σ'] := by decide

end HandlerRouting.Text
