import HandlerRouting.Document.Fault

/-!
Places in the text of a document. A place knows its line and its column, because indentation and the
ends of lines decide what a text means.
-/

namespace HandlerRouting.Document

def isBreak (c : Char) : Bool := c = '\n' || c = '\u0085' || c = '\u2028' || c = '\u2029'

def isGap (c : Char) : Bool := c = ' ' || c = '\t'

def byteOrderMark : Char := '\ufeff'

def mayStand (c : Char) : Bool :=
  let code := c.toNat
  c = '\t' || c = '\n' || c = '\r' || (0x20 ≤ code && code ≤ 0x7e) || code = 0x85 ||
    (0xa0 ≤ code && code ≤ 0xd7ff) || (0xe000 ≤ code && code ≤ 0xfffd) || 0x10000 ≤ code

def plainBreaks : List Char → List Char
  | '\r' :: '\n' :: rest => '\n' :: plainBreaks rest
  | c :: rest => (if c = '\r' then '\n' else c) :: plainBreaks rest
  | [] => []

def isEdge (next : Option Char) : Bool := next.all fun c => isGap c || isBreak c

def isCleanEdge (next : Option Char) : Bool := next.all fun c => c = ' ' || isBreak c

structure Cursor where
  rest : List Char
  index : Nat := 0
  line : Nat := 0
  column : Nat := 0

namespace Cursor

def peek (here : Cursor) (ahead : Nat) : Option Char := here.rest[ahead]?

def head (here : Cursor) : Option Char := here.rest.head?

def next (here : Cursor) : Cursor :=
  match here.rest with
  | [] => here
  | c :: rest =>
    if isBreak c then ⟨rest, here.index + 1, here.line + 1, 0⟩
    else
      let column := if c = byteOrderMark then here.column else here.column + 1
      ⟨rest, here.index + 1, here.line, column⟩

def forward : Nat → Cursor → Cursor
  | 0, here => here
  | n + 1, here => forward n here.next

def span (member : Char → Bool) (here : Cursor) : List Char × Cursor :=
  let run := here.rest.takeWhile member
  (run, here.forward run.length)

def skip (member : Char → Bool) (here : Cursor) : Cursor := (here.span member).2

def lineEnd? (here : Cursor) : Option (Char × Cursor) :=
  match here.head with
  | some c =>
    if c = '\u2028' ∨ c = '\u2029' then some (c, here.next)
    else if isBreak c then some ('\n', here.next)
    else none
  | none => none

def startMark : List Char := ['-', '-', '-']

def endMark : List Char := ['.', '.', '.']

def showsMark (here : Cursor) (mark : List Char) : Bool :=
  here.rest.take 3 == mark && isEdge (here.peek 3)

def showsSeparator (here : Cursor) : Bool := here.showsMark startMark || here.showsMark endMark

end Cursor

end HandlerRouting.Document
