/-!
Division of a written media type into segments: at every semicolon that stands outside double
quotes. Between quotes a backslash hides the character after it. What follows the last semicolon
may leave its quotes open.
-/

namespace HandlerRouting.MediaType

/-- What may stand between two double quotes. -/
inductive QuotedText : List Char → Prop where
  | nil : QuotedText []
  | plain {c : Char} {rest : List Char} (notQuote : c ≠ '"') (notBackslash : c ≠ '\\')
      (behind : QuotedText rest) : QuotedText (c :: rest)
  | hidden {c : Char} {rest : List Char} (behind : QuotedText rest) :
      QuotedText ('\\' :: c :: rest)

/-- A text whose quotes are closed and whose semicolons all stand between them. -/
inductive ClosedText : List Char → Prop where
  | nil : ClosedText []
  | plain {c : Char} {rest : List Char} (notSemicolon : c ≠ ';') (notQuote : c ≠ '"')
      (behind : ClosedText rest) : ClosedText (c :: rest)
  | quotes {content rest : List Char} (inside : QuotedText content) (behind : ClosedText rest) :
      ClosedText ('"' :: (content ++ '"' :: rest))

inductive OpenQuotes : List Char → Prop where
  | quotes {content : List Char} (inside : QuotedText content) : OpenQuotes ('"' :: content)
  | backslash {content : List Char} (inside : QuotedText content) :
      OpenQuotes ('"' :: (content ++ ['\\']))

/-- A text whose quotes are all closed. What comes next stands outside quotes. -/
inductive Balanced : List Char → Prop where
  | nil : Balanced []
  | plain {c : Char} {rest : List Char} (notQuote : c ≠ '"') (behind : Balanced rest) :
      Balanced (c :: rest)
  | quotes {content rest : List Char} (inside : QuotedText content) (behind : Balanced rest) :
      Balanced ('"' :: (content ++ '"' :: rest))

/-- No semicolon of a text stands outside the quotes that the text itself opens. -/
def Undivided (part : List Char) : Prop :=
  ∀ front back, part = front ++ ';' :: back → ¬ Balanced front

/-- The first segment of a text and the others. -/
inductive Divides : List Char → List Char → List (List Char) → Prop where
  | whole {part : List Char} (closed : ClosedText part) : Divides part part []
  | unclosed {part tail : List Char} (closed : ClosedText part) (quotes : OpenQuotes tail) :
      Divides (part ++ tail) (part ++ tail) []
  | split {part rest first : List Char} {others : List (List Char)} (closed : ClosedText part)
      (behind : Divides rest first others) : Divides (part ++ ';' :: rest) part (first :: others)

end HandlerRouting.MediaType
