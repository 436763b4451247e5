import HandlerRouting.Precedence.Run

/-!
Merging two neighbouring runs, from the front or from the back. Elements are taken one at a time
until one side has come first often enough in a row; then whole stretches are looked for, by steps
that double and a bisection between the last two.
-/

namespace HandlerRouting.Sort
variable {α : Type}

def bracketWithin (passes : α → Bool) (run : List α) : (fuel low high : Nat) → Nat × Nat
  | 0, low, _ => (low, run.length)
  | fuel + 1, low, high =>
    match run[high]? with
    | none => (low, run.length)
    | some a =>
      if passes a then bracketWithin passes run fuel high (2 * high + 1) else (low, high)

def bisectTowards (backward : Bool) (passes : α → Bool) (run : List α) : Nat :=
  if backward then run.length - bisect (fun a => !passes a) run.reverse else bisect passes run

def gallop (backward : Bool) (passes : α → Bool) : List α → Nat
  | [] => 0
  | first :: rest =>
    if passes first then
      let (low, high) := bracketWithin passes (first :: rest) rest.length 0 1
      low + 1 + bisectTowards backward passes (((first :: rest).take high).drop (low + 1))
    else 0

inductive Pace where
  | stepping (lefts rights : Nat)
  | slowing
  | opening (again : Bool)
  | closing (opened : Nat)
deriving DecidableEq, Repr

namespace Pace

def worthwhile : Nat := 7

/-- How often one side has to come first before stretches are looked for. Every round of stretches
makes it less, and every return to single elements more. -/
def patience (kept : Nat) : Pace → Nat
  | slowing => kept + 1
  | opening true => if 1 < kept then kept - 1 else kept
  | stepping _ _ | opening false | closing _ => kept

def afterStep (patience lefts rights : Nat) (rightFirst : Bool) : Pace :=
  if rightFirst then
    if patience ≤ rights + 1 then opening false else stepping 0 (rights + 1)
  else if patience ≤ lefts + 1 then opening false else stepping (lefts + 1) 0

def next (patience : Nat) (rightFirst : Bool) (passed : Nat) : Pace → Pace
  | stepping lefts rights => afterStep patience lefts rights rightFirst
  | slowing => afterStep patience 0 0 rightFirst
  | opening _ => closing passed
  | closing opened => if worthwhile ≤ opened ∨ worthwhile ≤ passed then opening true else slowing

end Pace

structure Move (α : Type) where
  out : List α
  passed : Nat
  left : List α
  right : List α

section Moves
variable (ahead : α → α → Bool) (backward : Bool) (a b : α) (left right : List α)

def step : Move α :=
  if ahead b a then ⟨[b], 0, a :: left, right⟩ else ⟨[a], 0, left, b :: right⟩

def stretchLeft : Move α :=
  let count := gallop backward (fun x => !ahead b x) (a :: left)
  ⟨(a :: left).take count ++ [b], count, (a :: left).drop count, right⟩

def stretchRight : Move α :=
  let count := gallop backward (fun y => ahead y a) (b :: right)
  ⟨(b :: right).take count ++ [a], count, left, (b :: right).drop count⟩

def move : Pace → Move α
  | .stepping _ _ | .slowing => step ahead a b left right
  | .opening _ =>
    if backward then stretchRight ahead backward a b left right
    else stretchLeft ahead backward a b left right
  | .closing _ =>
    if backward then stretchLeft ahead backward a b left right
    else stretchRight ahead backward a b left right

end Moves

def mergeWithin (ahead : α → α → Bool) (backward : Bool) :
    (fuel : Nat) → Pace → (patience : Nat) → List α → List α → List α × Nat
  | 0, _, patience, left, right => (left ++ right, patience)
  | _ + 1, _, patience, [], right => (right, patience)
  | _ + 1, _, patience, left, [] => (left, patience)
  -- The last element on the left is known to come last.
  | _ + 1, _, patience, [a], right => (right ++ [a], patience)
  | fuel + 1, pace, kept, a :: left, b :: right =>
    let patience := pace.patience kept
    let taken := move ahead backward a b left right pace
    let (rest, patience) := mergeWithin ahead backward fuel
      (pace.next patience (ahead b a) taken.passed) patience taken.left taken.right
    (taken.out ++ rest, patience)

def mergeSides (ahead : α → α → Bool) (backward : Bool) (patience : Nat) (left : List α) :
    List α → List α × Nat
  | [] => (left, patience)
  | first :: right =>
    let (rest, patience) := mergeWithin ahead backward (left.length + right.length)
      (.stepping 0 0) patience left right
    (first :: rest, patience)

def mergeOverlap (before : α → α → Bool) (patience : Nat) (left right : List α) : List α × Nat :=
  if left.length ≤ right.length then mergeSides before false patience left right
  else
    let (merged, patience) :=
      mergeSides (fun a b => before b a) true patience right.reverse left.reverse
    (merged.reverse, patience)

def mergeRuns (before : α → α → Bool) (patience : Nat) (left right : List α) : List α × Nat :=
  match left.getLast?, right.head? with
  | some last, some first =>
    let start := gallop false (fun a => !before first a) left
    let stop := right.length - gallop true (fun b => !before b last) right.reverse
    -- What stands in front of `start` and behind `stop` is in its place already.
    if (left.drop start).isEmpty || (right.take stop).isEmpty then (left ++ right, patience)
    else
      let (merged, patience) := mergeOverlap before patience (left.drop start) (right.take stop)
      (left.take start ++ merged ++ right.drop stop, patience)
  | _, _ => (left ++ right, patience)

end HandlerRouting.Sort
