/-!
Tokens of header grammars: one or more letters, digits and the marks that separate nothing.
`isToken` is `_is_token`.
-/

namespace HandlerRouting.Text

def tokenMarks : List Char :=
  ['!', '#', '$', '%', '&', '\'', '*', '+', '-', '.', '^', '_', '\x60', '|', '~']

def isTokenChar (c : Char) : Bool := c.isAlphanum || tokenMarks.contains c

def isToken (s : List Char) : Bool := !s.isEmpty && s.all isTokenChar

theorem is_token_iff (s : List Char) :
    isToken s = true ↔ s ≠ [] ∧ ∀ c ∈ s, isTokenChar c = true := by
  simp [isToken]

end HandlerRouting.Text
