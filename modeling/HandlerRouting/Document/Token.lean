import HandlerRouting.Document.ScalarText

/-!
Tokens of a document: its marks, its scalars, the names and tags on them, and its directives. The
starts and ends of what is set off by indentation are tokens as well, though no character stands
for them.
-/

namespace HandlerRouting.Document

inductive Directive where
  | version (major : Nat)
  | tagPrefix (handle replaced : List Char)
  | other
deriving DecidableEq, Repr

inductive Token where
  | directive (d : Directive)
  | documentStart
  | documentEnd
  | listStart
  | recordStart
  | blockEnd
  | flowListStart
  | flowListEnd
  | flowRecordStart
  | flowRecordEnd
  | item
  | comma
  | key
  | value
  | reference (name : List Char)
  | anchor (name : List Char)
  | tag (handle : Option (List Char)) (suffix : List Char)
  | scalar (s : ScalarText)
deriving DecidableEq, Repr

namespace Token

def isNameChar (c : Char) : Bool := c.isAlphanum || c = '-' || c = '_'

/-! ## Anchors and aliases -/

def endsName (next : Option Char) : Bool :=
  isEdge next || next.any ['?', ':', ',', ']', '}', '%', '@', '\x60'].contains

def readName (here : Cursor) : Except Fault (List Char × Cursor) :=
  let (name, after) := here.next.span isNameChar
  if name.isEmpty || !endsName after.head then .error .malformed else .ok (name, after)

/-! ## Tags -/

def isTagChar (c : Char) : Bool :=
  isNameChar c ||
    [';', '/', '?', ':', '@', '&', '=', '+', '$', ',', '.', '!', '~', '*', '\'', '(', ')', '[',
      ']', '%'].contains c

def percentBytes : (fuel : Nat) → List Char → Option (List Nat × List Char)
  | 0, _ => none
  | fuel + 1, s =>
    match s with
    | '%' :: rest => do
      let byte ← ScalarText.readHex 2 rest
      let (more, last) ← percentBytes fuel (rest.drop 2)
      return (byte :: more, last)
    | _ => some ([], s)

def charsOfBytes (bytes : List Nat) : Option (List Char) :=
  (String.fromUTF8? ⟨(bytes.map UInt8.ofNat).toArray⟩).map String.toList

def unescapeTag : (fuel : Nat) → List Char → Option (List Char)
  | 0, _ => none
  | _, [] => some []
  | fuel + 1, c :: rest =>
    if c = '%' then do
      let (bytes, last) ← percentBytes (rest.length + 2) (c :: rest)
      let chars ← charsOfBytes bytes
      let more ← unescapeTag fuel last
      return chars ++ more
    else (unescapeTag fuel rest).map (c :: ·)

def readTagText (here : Cursor) : Except Fault (List Char × Cursor) :=
  let (written, after) := here.span isTagChar
  match unescapeTag written.length.succ written with
  | some text => if text.isEmpty then .error .malformed else .ok (text, after)
  | none => .error .malformed

def readHandle (here : Cursor) : Except Fault (List Char × Cursor) :=
  let (name, after) := here.next.span isNameChar
  if here.next.head = some ' ' then .ok (['!'], here.next)
  else if after.head = some '!' then .ok ('!' :: name ++ ['!'], after.next)
  else .error .malformed

def hasHandle (word : List Char) : Bool :=
  (word.takeWhile fun c => !(c = ' ' || isBreak c)).contains '!'

def readTag (here : Cursor) : Except Fault (Token × Cursor) := do
  let (token, after) ←
    if here.peek 1 = some '<' then do
      let (text, after) ← readTagText (here.forward 2)
      if after.head = some '>' then .ok (tag none text, after.next) else .error .malformed
    else if isEdge (here.peek 1) then .ok (tag none ['!'], here.next)
    else if hasHandle (here.rest.drop 1) then do
      let (handle, held) ← readHandle here
      let (text, after) ← readTagText held
      .ok (tag (some handle) text, after)
    else do
      let (text, after) ← readTagText here.next
      .ok (tag (some ['!']) text, after)
  if isCleanEdge after.head then .ok (token, after) else .error .malformed

/-! ## Directives -/

def readNumber (here : Cursor) : Except Fault (Nat × Cursor) :=
  let (digits, after) := here.span Char.isDigit
  if digits.isEmpty then .error .malformed else .ok (Numeral.digitsValue digits, after)

def readVersion (here : Cursor) : Except Fault (Directive × Cursor) := do
  let (major, after) ← readNumber (here.skip (· = ' '))
  if after.head = some '.' then
    let (_, last) ← readNumber after.next
    if isCleanEdge last.head then .ok (.version major, last) else .error .malformed
  else .error .malformed

def readTagPrefix (here : Cursor) : Except Fault (Directive × Cursor) := do
  let held := here.skip (· = ' ')
  let (handle, after) ← if held.head = some '!' then readHandle held else .error .malformed
  if after.head = some ' ' then
    let (replaced, last) ← readTagText (after.skip (· = ' '))
    if isCleanEdge last.head then .ok (.tagPrefix handle replaced, last) else .error .malformed
  else .error .malformed

def readDirective (here : Cursor) : Except Fault (Token × Cursor) := do
  let (name, after) := here.next.span isNameChar
  if name.isEmpty || !isCleanEdge after.head then .error .malformed
  else
    let (found, last) ←
      if name = ['Y', 'A', 'M', 'L'] then readVersion after
      else if name = ['T', 'A', 'G'] then readTagPrefix after
      else .ok (.other, after.skip (!isBreak ·))
    return (directive found, ← ScalarText.skipLine last)

end Token

end HandlerRouting.Document
