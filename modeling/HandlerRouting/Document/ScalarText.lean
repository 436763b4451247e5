import HandlerRouting.Document.Cursor

/-!
The texts of scalars: plain ones, quoted ones, and blocks of lines. A text may go over several
lines; one line end between two parts of it counts as a space, and of more than one the first goes.
-/

namespace HandlerRouting.Document

/-- A scalar as it is read. A plain one may yet stand for something else than a text; a broken one
had half a pair of surrogates in it. -/
structure ScalarText where
  text : List Char
  plain : Bool := false
  broken : Bool := false
deriving DecidableEq, Repr

namespace ScalarText

def folded (first : Char) (others : List Char) : List Char :=
  (if first ≠ '\n' then [first] else if others.isEmpty then [' '] else []) ++ others

/-! ## Quoted scalars -/

def escapes : List (Char × Char) := [
  ('0', '\x00'), ('a', '\x07'), ('b', '\x08'), ('t', '\t'), ('\t', '\t'), ('n', '\n'),
  ('v', '\x0b'), ('f', '\x0c'), ('r', '\r'), ('e', '\x1b'), (' ', ' '), ('"', '"'), ('\\', '\\'),
  ('/', '/'), ('N', '\u0085'), ('_', '\u00a0'), ('L', '\u2028'), ('P', '\u2029')]

def escapeWidth (c : Char) : Option Nat :=
  if c = 'x' then some 2 else if c = 'u' then some 4 else if c = 'U' then some 8 else none

def hexValue? (c : Char) : Option Nat :=
  if c.isDigit then some (c.toNat - 0x30)
  else if 'a' ≤ c ∧ c ≤ 'f' then some (c.toNat - 0x57)
  else if 'A' ≤ c ∧ c ≤ 'F' then some (c.toNat - 0x37)
  else none

def readHex (width : Nat) (s : List Char) : Option Nat :=
  let digits := s.take width
  if digits.length = width then
    (digits.mapM hexValue?).map fun values => values.foldl (fun n value => 16 * n + value) 0
  else none

def isSurrogate (code : Nat) : Bool := 0xd800 ≤ code && code < 0xe000

def brokenShown : List Char := ['\ufffd', '\ufffd', '\ufffd']

def breaksAhead : (fuel : Nat) → Cursor → Except Fault (List Char × Cursor)
  | 0, _ => .error .malformed
  | fuel + 1, here =>
    if here.showsSeparator then .error .malformed
    else
      let held := here.skip isGap
      match held.lineEnd? with
      | none => .ok ([], held)
      | some (c, after) =>
        match breaksAhead fuel after with
        | .ok (others, last) => .ok (c :: others, last)
        | .error fault => .error fault

structure Piece where
  text : List Char
  broken : Bool := false

def readEscape (here : Cursor) : Except Fault (Piece × Cursor) :=
  match here.head with
  | none => .error .malformed
  | some c =>
    match escapes.lookup c, escapeWidth c, here.lineEnd? with
    | some meant, _, _ => .ok (⟨[meant], false⟩, here.next)
    | none, some width, _ =>
      match readHex width here.next.rest with
      | none => .error .malformed
      | some code =>
        let after := here.next.forward width
        if isSurrogate code then .ok (⟨brokenShown, true⟩, after)
        else if 0x110000 ≤ code then .error (.noCharacter code)
        else .ok (⟨[Char.ofNat code], false⟩, after)
    | none, none, some (_, after) =>
      (breaksAhead after.rest.length.succ after).map fun (breaks, last) => (⟨breaks, false⟩, last)
    | none, none, none => .error .malformed

def readGaps (here : Cursor) : Except Fault (Piece × Cursor) :=
  let (gaps, held) := here.span isGap
  match held.lineEnd? with
  | none => if held.rest.isEmpty then .error .malformed else .ok (⟨gaps, false⟩, held)
  | some (first, after) =>
    (breaksAhead after.rest.length.succ after).map fun (others, last) =>
      (⟨folded first others, false⟩, last)

def readPiece (mark : Char) (here : Cursor) : Except Fault (Option Piece × Cursor) :=
  match here.rest with
  | [] => .error .malformed
  | c :: rest =>
    if c = mark then
      if mark = '\'' ∧ rest.head? = some '\'' then .ok (some ⟨['\''], false⟩, here.forward 2)
      else .ok (none, here.next)
    else if mark = '"' ∧ c = '\\' then
      (readEscape here.next).map fun (piece, after) => (some piece, after)
    else if isGap c || isBreak c then
      (readGaps here).map fun (piece, after) => (some piece, after)
    else .ok (some ⟨[c], false⟩, here.next)

def readPieces (mark : Char) : (fuel : Nat) → Cursor → Except Fault (List Piece × Cursor)
  | 0, _ => .error .malformed
  | fuel + 1, here =>
    match readPiece mark here with
    | .error fault => .error fault
    | .ok (none, after) => .ok ([], after)
    | .ok (some piece, after) =>
      match readPieces mark fuel after with
      | .error fault => .error fault
      | .ok (pieces, last) => .ok (piece :: pieces, last)

def readQuoted (mark : Char) (here : Cursor) : Except Fault (ScalarText × Cursor) :=
  (readPieces mark here.rest.length.succ here.next).map fun (pieces, after) =>
    ({ text := pieces.flatMap Piece.text, broken := pieces.any Piece.broken }, after)

/-! ## Plain scalars -/

def flowMarks : List Char := [',', '[', ']', '{', '}']

def colonEnds (flow : Bool) (next : Option Char) : Bool :=
  isEdge next || (flow && next.any flowMarks.contains)

def plainRun (flow : Bool) : List Char → List Char
  | [] => []
  | c :: rest =>
    if isGap c || isBreak c || (c = ':' && colonEnds flow rest.head?) ||
        (flow && (c = '?' || flowMarks.contains c)) then []
    else c :: plainRun flow rest

structure PlainGap where
  text : List Char
  after : Cursor
  newLine : Bool

def plainBreaks? : (fuel : Nat) → Cursor → Option (List Char) × Cursor
  | 0, here => (none, here)
  | fuel + 1, here =>
    let held := here.skip (· = ' ')
    match held.lineEnd? with
    | none => (some [], held)
    | some (c, after) =>
      if after.showsSeparator then (none, after)
      else
        let (others, last) := plainBreaks? fuel after
        (others.map (c :: ·), last)

def readPlainGap (here : Cursor) : PlainGap :=
  let (spaces, held) := here.span (· = ' ')
  match held.lineEnd? with
  | none => ⟨spaces, held, false⟩
  | some (first, after) =>
    if after.showsSeparator then ⟨[], after, true⟩
    else match plainBreaks? after.rest.length.succ after with
      | (some others, last) => ⟨folded first others, last, true⟩
      | (none, last) => ⟨[], last, true⟩

def readPlainFrom (flow : Bool) (indent : Int) :
    (fuel : Nat) → (gap : List Char) → (newLine : Bool) → Cursor → List Char × Cursor × Bool
  | 0, _, newLine, here => ([], here, newLine)
  | fuel + 1, gap, newLine, here =>
    let run := plainRun flow here.rest
    if here.head = some '#' || run.isEmpty then ([], here, newLine)
    else
      let found := readPlainGap (here.forward run.length)
      if found.text.isEmpty || found.after.head = some '#' ||
          (!flow && (found.after.column : Int) < indent) then
        (gap ++ run, found.after, found.newLine)
      else
        let (more, last, newLine) :=
          readPlainFrom flow indent fuel found.text found.newLine found.after
        (gap ++ run ++ more, last, newLine)

def readPlain (flow : Bool) (indent : Int) (here : Cursor) : ScalarText × Cursor × Bool :=
  let (text, last, newLine) := readPlainFrom flow indent here.rest.length.succ [] false here
  ({ text, plain := true }, last, newLine)

/-! ## Blocks -/

inductive Chomping where
  | clip
  | keep
  | strip
deriving DecidableEq, Repr

def chompingOf (c : Option Char) : Option Chomping :=
  if c = some '+' then some .keep else if c = some '-' then some .strip else none

def stepOf (c : Option Char) : Option Nat :=
  match c with
  | some d => if d.isDigit then some (d.toNat - 0x30) else none
  | none => none

def readHeader (here : Cursor) : Except Fault (Chomping × Option Nat × Cursor) :=
  let (chomping, step, last) := match chompingOf here.head with
    | some chomping =>
      match stepOf here.next.head with
      | some step => (chomping, some step, here.forward 2)
      | none => (chomping, none, here.next)
    | none =>
      match stepOf here.head with
      | some step =>
        match chompingOf here.next.head with
        | some chomping => (chomping, some step, here.forward 2)
        | none => (.clip, some step, here.next)
      | none => (.clip, none, here)
  if step = some 0 || !isCleanEdge last.head then .error .malformed else .ok (chomping, step, last)

def skipLine (here : Cursor) : Except Fault Cursor :=
  let held := here.skip (· = ' ')
  let last := if held.head = some '#' then held.skip (!isBreak ·) else held
  match last.head with
  | none => .ok last
  | some c => if isBreak c then .ok last.next else .error .malformed

def leadingBreaks : (fuel : Nat) → (furthest : Nat) → Cursor → List Char × Nat × Cursor
  | 0, furthest, here => ([], furthest, here)
  | fuel + 1, furthest, here =>
    match here.lineEnd? with
    | some (c, after) =>
      let (others, furthest, last) := leadingBreaks fuel furthest after
      (c :: others, furthest, last)
    | none =>
      if here.head = some ' ' then leadingBreaks fuel (max furthest here.next.column) here.next
      else ([], furthest, here)

def skipIndent : (fuel indent : Nat) → Cursor → Cursor
  | 0, _, here => here
  | fuel + 1, indent, here =>
    if here.column < indent ∧ here.head = some ' ' then skipIndent fuel indent here.next else here

def innerBreaks (indent : Nat) : (fuel : Nat) → Cursor → List Char × Cursor
  | 0, here => ([], here)
  | fuel + 1, here =>
    let held := skipIndent indent indent here
    match held.lineEnd? with
    | some (c, after) =>
      let (others, last) := innerBreaks indent fuel after
      (c :: others, last)
    | none => ([], held)

def blockLines (fold : Bool) (chomping : Chomping) (indent : Nat) :
    (fuel : Nat) → (pending : List Char) → (lineEnd : List Char) → Cursor → List Char × Cursor
  | 0, _, _, here => ([], here)
  | fuel + 1, pending, lineEnd, here =>
    if here.column = indent && here.head.isSome then
      let (line, held) := here.span (!isBreak ·)
      let (ended, after) := match held.lineEnd? with
        | some (c, after) => ([c], after)
        | none => ([], held)
      let (breaks, last) := innerBreaks indent after.rest.length.succ after
      let goesOn := last.column = indent && last.head.isSome
      let folds := fold && ended = ['\n'] && !here.head.any isGap && !last.head.any isGap
      let joint :=
        if !goesOn then [] else if !folds then ended else if breaks.isEmpty then [' '] else []
      let (more, final) := blockLines fold chomping indent fuel breaks ended last
      (pending ++ line ++ joint ++ more, final)
    else
      let kept := match chomping with
        | .clip => lineEnd
        | .keep => lineEnd ++ pending
        | .strip => []
      (kept, here)

def readBlock (fold : Bool) (indent : Int) (here : Cursor) :
    Except Fault (ScalarText × Cursor) := do
  let (chomping, step, headed) ← readHeader here.next
  let start ← skipLine headed
  let least := (indent + 1).toNat.max 1
  let fuel := start.rest.length.succ
  let (pending, indent, first) := match step with
    | none =>
      let (pending, furthest, first) := leadingBreaks fuel 0 start
      (pending, max least furthest, first)
    | some step =>
      let (pending, first) := innerBreaks (least + step - 1) fuel start
      (pending, least + step - 1, first)
  let (text, last) := blockLines fold chomping indent fuel pending [] first
  return ({ text }, last)

end ScalarText

end HandlerRouting.Document
