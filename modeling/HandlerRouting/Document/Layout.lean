import HandlerRouting.Document.Token

/-!
The layout of a document: its text as a list of tokens, with those that indentation stands for put
in. A key is known as one only by the colon behind it, so a place where a key may begin is
remembered until then, for the rest of its line and for a limited number of characters.
-/

namespace HandlerRouting.Document

/-- A token that may turn out to be a key: how many tokens stand in front of it, and where it
begins. One that stands where only a key may stand has to. -/
structure PossibleKey where
  place : Nat
  required : Bool
  index : Nat
  line : Nat
  column : Nat

structure Layout where
  here : Cursor
  tokens : List Token := []
  count : Nat := 0
  indent : Int := -1
  outer : List Int := []
  keyAllowed : Bool := true
  key : Option PossibleKey := none
  outerKeys : List (Option PossibleKey) := []

namespace Layout

/-- The most characters that a key may have if no mark announces it. -/
def keyReach : Nat := 1024

def inFlow (l : Layout) : Bool := !l.outerKeys.isEmpty

def column (l : Layout) : Int := l.here.column

def emit (token : Token) (l : Layout) : Layout :=
  { l with tokens := token :: l.tokens, count := l.count + 1 }

def take (length : Nat) (token : Token) (l : Layout) : Layout :=
  { l.emit token with here := l.here.forward length }

def insert (place : Nat) (opening : List Token) (l : Layout) : Layout :=
  let later := l.count - place
  { l with tokens := l.tokens.take later ++ opening.reverse ++ l.tokens.drop later,
           count := l.count + opening.length }

/-! ## Indentation -/

def unwound (column : Int) : Int → List Int → Nat × Int × List Int
  | indent, [] => (0, indent, [])
  | indent, next :: outer =>
    if column < indent then
      let (ended, left, outer) := unwound column next outer
      (ended + 1, left, outer)
    else (0, indent, next :: outer)

def unwind (column : Int) (l : Layout) : Layout :=
  -- Between brackets no block ends.
  if l.inFlow then l
  else
    let (ended, indent, outer) := unwound column l.indent l.outer
    { l with tokens := List.replicate ended .blockEnd ++ l.tokens, count := l.count + ended,
             indent, outer }

def indentTo (column : Int) (l : Layout) : Bool × Layout :=
  if l.indent < column then (true, { l with indent := column, outer := l.indent :: l.outer })
  else (false, l)

/-! ## Possible keys -/

def dropKey (l : Layout) : Except Fault Layout :=
  if l.key.any PossibleKey.required then .error .malformed else .ok { l with key := none }

def isStale (here : Cursor) (key : PossibleKey) : Bool :=
  key.line ≠ here.line || keyReach < here.index - key.index

def dropStaleKeys (l : Layout) : Except Fault Layout :=
  let stale := fun key : Option PossibleKey => key.any (isStale l.here)
  if (l.key :: l.outerKeys).any fun key => stale key && key.any PossibleKey.required then
    .error .malformed
  else
    let fresh := fun key => if stale key then none else key
    .ok { l with key := fresh l.key, outerKeys := l.outerKeys.map fresh }

def rememberKey (l : Layout) : Except Fault Layout :=
  if l.keyAllowed then do
    let l ← l.dropKey
    let required := !l.inFlow && l.indent == l.column
    return { l with key := some ⟨l.count, required, l.here.index, l.here.line, l.here.column⟩ }
  else .ok l

/-! ## Tokens -/

def skipIdle : (fuel : Nat) → Layout → Layout
  | 0, l => l
  | fuel + 1, l =>
    let held := l.here.skip (· = ' ')
    let last := if held.head = some '#' then held.skip (!isBreak ·) else held
    match last.lineEnd? with
    | some (_, after) =>
      -- Outside brackets a key may stand on a new line.
      skipIdle fuel { l with here := after, keyAllowed := l.keyAllowed || !l.inFlow }
    | none => { l with here := last }

def closeAll (l : Layout) : Except Fault Layout := do
  let l ← (l.unwind (-1)).dropKey
  return { l with keyAllowed := false }

def openFlow (token : Token) (l : Layout) : Except Fault Layout := do
  let l ← l.rememberKey
  return { l.take 1 token with key := none, outerKeys := l.key :: l.outerKeys, keyAllowed := true }

def closeFlow (token : Token) (l : Layout) : Except Fault Layout := do
  let l ← l.dropKey
  match l.outerKeys with
  | [] => .error .malformed
  | key :: outerKeys => return { l.take 1 token with key, outerKeys, keyAllowed := false }

def readComma (l : Layout) : Except Fault Layout := do
  let l ← l.dropKey
  return { l.take 1 .comma with keyAllowed := true }

def openBlock (token : Token) (l : Layout) : Except Fault Layout :=
  if l.inFlow then .ok l
  else if !l.keyAllowed then .error .malformed
  else
    let (begins, l) := l.indentTo l.column
    .ok (if begins then l.emit token else l)

def readItem (l : Layout) : Except Fault Layout := do
  let l ← (← l.openBlock .listStart).dropKey
  return { l.take 1 .item with keyAllowed := true }

def readKey (l : Layout) : Except Fault Layout := do
  let l ← (← l.openBlock .recordStart).dropKey
  return { l.take 1 .key with keyAllowed := !l.inFlow }

def readValue (l : Layout) : Except Fault Layout :=
  match l.key with
  -- What is remembered is a key then, and a record may begin with it.
  | some key =>
    let (begins, opened) :=
      if l.inFlow then (false, l) else l.indentTo key.column
    let opening := if begins then [.recordStart, .key] else [.key]
    let l := opened.insert key.place opening
    .ok { l.take 1 .value with key := none, keyAllowed := false }
  | none => do
    let l ← l.openBlock .recordStart
    return { l.take 1 .value with keyAllowed := !l.inFlow }

def readWith (read : Cursor → Except Fault (Token × Cursor)) (l : Layout) :
    Except Fault Layout := do
  let l ← l.rememberKey
  let (token, after) ← read l.here
  return { l.emit token with here := after, keyAllowed := false }

def readPlain (l : Layout) : Except Fault Layout := do
  let l ← l.rememberKey
  let (s, after, newLine) := ScalarText.readPlain l.inFlow (l.indent + 1) l.here
  return { l.emit (.scalar s) with here := after, keyAllowed := newLine }

def readBlock (fold : Bool) (l : Layout) : Except Fault Layout := do
  let l ← l.dropKey
  let (s, after) ← ScalarText.readBlock fold l.indent l.here
  return { l.emit (.scalar s) with here := after, keyAllowed := true }

def readMark (token : Token) (l : Layout) : Except Fault Layout := do
  let l ← l.closeAll
  return l.take 3 token

def readDirective (l : Layout) : Except Fault Layout := do
  let l ← l.closeAll
  let (token, after) ← Token.readDirective l.here
  return { l.emit token with here := after }

def indicators : List Char :=
  ['-', '?', ':', ',', '[', ']', '{', '}', '#', '&', '*', '!', '|', '>', '\'', '"', '%', '@',
    '\x60']

def opensPlain (flow : Bool) (c : Char) (next : Option Char) : Bool :=
  (!isGap c && !isBreak c && !indicators.contains c) ||
    (!isEdge next && (c = '-' || (!flow && (c = '?' || c = ':'))))

def step (c : Char) (l : Layout) : Except Fault Layout :=
  let next := l.here.peek 1
  let lineStart := l.here.column = 0
  let markEnds := l.inFlow || isEdge next
  if lineStart && c = '%' then l.readDirective
  else if lineStart && l.here.showsMark Cursor.startMark then l.readMark .documentStart
  else if lineStart && l.here.showsMark Cursor.endMark then l.readMark .documentEnd
  else if c = '[' then l.openFlow .flowListStart
  else if c = '{' then l.openFlow .flowRecordStart
  else if c = ']' then l.closeFlow .flowListEnd
  else if c = '}' then l.closeFlow .flowRecordEnd
  else if c = ',' then l.readComma
  else if c = '-' && isEdge next then l.readItem
  else if c = '?' && markEnds then l.readKey
  else if c = ':' && markEnds then l.readValue
  else if c = '*' then l.readWith fun here =>
    (Token.readName here).map fun (name, after) => (.reference name, after)
  else if c = '&' then l.readWith fun here =>
    (Token.readName here).map fun (name, after) => (.anchor name, after)
  else if c = '!' then l.readWith Token.readTag
  else if c = '|' && !l.inFlow then l.readBlock false
  else if c = '>' && !l.inFlow then l.readBlock true
  else if c = '\'' || c = '"' then l.readWith fun here =>
    (ScalarText.readQuoted c here).map fun (s, after) => (.scalar s, after)
  else if opensPlain l.inFlow c next then l.readPlain
  else .error .malformed

def readAll : (fuel : Nat) → Layout → Except Fault Layout
  | 0, _ => .error .malformed
  | fuel + 1, l => do
    let l ← (l.skipIdle l.here.rest.length.succ).dropStaleKeys
    -- The blocks that the next token stands outside of end in front of it.
    let l := l.unwind l.column
    match l.here.head with
    | none => l.closeAll
    | some c => readAll fuel (← l.step c)

def tokensOf (s : List Char) : Except Fault (List Token) :=
  if !s.all mayStand then .error .malformed
  else
    let s := plainBreaks s
    let start : Cursor := { rest := s }
    -- A byte order mark in front does not count.
    let begun := if s.head? = some byteOrderMark then start.next else start
    (readAll s.length.succ { here := begun }).map fun l => l.tokens.reverse

end Layout

end HandlerRouting.Document
