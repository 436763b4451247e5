/-!
Segments of a written media type: the parts between semicolons that stand outside double quotes.
Inside quotes a backslash hides the character after it. `segments` is `_split_parameters`.
-/

namespace HandlerRouting.MediaType

/-- Where the reading stands: outside of quotes, inside them, or behind a backslash inside them. -/
inductive Position where
  | outside
  | inside
  | escaped
deriving DecidableEq, Repr

def Position.after (position : Position) (c : Char) : Position :=
  match position with
  | .outside => if c = '"' then .inside else .outside
  | .inside => if c = '\\' then .escaped else if c = '"' then .outside else .inside
  | .escaped => .inside

def Position.afterText (position : Position) (s : List Char) : Position :=
  s.foldl Position.after position

/-- The first segment of a text, and all others. There is always a first one. -/
def segmentsFrom (position : Position) : List Char → List Char × List (List Char)
  | [] => ([], [])
  | c :: rest =>
    if c = ';' ∧ position = .outside then
      let (first, others) := segmentsFrom .outside rest
      ([], first :: others)
    else
      let (first, others) := segmentsFrom (position.after c) rest
      (c :: first, others)

def segments (s : List Char) : List Char × List (List Char) := segmentsFrom .outside s

def joinSegments (first : List Char) (others : List (List Char)) : List Char :=
  first ++ others.flatMap (';' :: ·)

theorem join_segments_from (position : Position) (s : List Char) :
    joinSegments (segmentsFrom position s).1 (segmentsFrom position s).2 = s := by
  induction s generalizing position with
  | nil => rfl
  | cons c rest ih =>
    simp only [segmentsFrom]
    split
    · rename_i separates
      simpa [joinSegments, separates.1] using ih .outside
    · simpa [joinSegments] using ih (position.after c)

end HandlerRouting.MediaType
