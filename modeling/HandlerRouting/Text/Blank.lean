import HandlerRouting.Text.CodePoints

/-!
Blank characters, and trimming them from both ends of a text. The information separators
U+001C to U+001F count as blank; the zero-width characters do not.
-/

namespace HandlerRouting.Text

def blankBounds : List Nat := [
  0x9, 0xe, 0x1c, 0x21, 0x85, 0x86, 0xa0, 0xa1, 0x1680, 0x1681, 0x2000, 0x200b, 0x2028, 0x202a,
  0x202f, 0x2030, 0x205f, 0x2060, 0x3000, 0x3001]

def isBlank (c : Char) : Bool := withinBounds blankBounds c

def trimEnd (s : List Char) : List Char := (s.reverse.dropWhile isBlank).reverse

def trim (s : List Char) : List Char := trimEnd (s.dropWhile isBlank)

def allBlank (s : List Char) : Bool := s.all isBlank

theorem drop_while_all {s : List Char} (blank : allBlank s = true) :
    s.dropWhile isBlank = [] := by
  induction s with
  | nil => rfl
  | cons c rest ih =>
    simp only [allBlank, List.all_cons, Bool.and_eq_true] at blank ih
    simp [blank.1, ih blank.2]

theorem trim_of_all_blank {s : List Char} (blank : allBlank s = true) : trim s = [] := by
  simp [trim, drop_while_all blank, trimEnd]

end HandlerRouting.Text
