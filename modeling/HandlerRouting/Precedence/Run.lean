import HandlerRouting.Precedence

/-!
Runs: stretches of a list that are in order. The run that a list begins with is taken as it is, or
turned round when every element comes before the one to its left; a run that is too short takes in
the elements after it, each at the place that a bisection finds. Precedence leaves ties that are not
transitive, so which elements get compared is a part of the result.
-/

namespace HandlerRouting.Sort
variable {α : Type}

def bisectWithin (passes : α → Bool) : (fuel : Nat) → List α → Nat
  | 0, _ => 0
  | fuel + 1, run =>
    match run.drop (run.length / 2) with
    | [] => 0
    | middle :: right =>
      if passes middle then run.length / 2 + 1 + bisectWithin passes fuel right
      else bisectWithin passes fuel (run.take (run.length / 2))

def bisect (passes : α → Bool) (run : List α) : Nat := bisectWithin passes run.length run

variable (before : α → α → Bool)

def insert (p : α) (run : List α) : List α :=
  let place := bisect (fun a => !before p a) run
  run.take place ++ p :: run.drop place

/-- The elements after `last` that go on falling, backwards in front of `taken`, and the rest. -/
def fallFrom (last : α) (taken : List α) : List α → List α × List α
  | [] => (last :: taken, [])
  | a :: rest =>
    if before a last then fallFrom a (last :: taken) rest else (last :: taken, a :: rest)

def riseFrom (last : α) : List α → List α × List α
  | [] => ([last], [])
  | a :: rest =>
    if before a last then ([last], a :: rest)
    else
      let (run, others) := riseFrom a rest
      (last :: run, others)

def firstRun : List α → List α × List α
  | [] => ([], [])
  | [a] => ([a], [])
  | a :: b :: rest =>
    if before b a then fallFrom before b [a] rest
    else
      let (run, others) := riseFrom before b rest
      (a :: run, others)

def nextRun (floor : Nat) (items : List α) : List α × List α :=
  let (run, others) := firstRun before items
  ((others.take (floor - run.length)).foldl (fun run p => insert before p run) run,
    others.drop (floor - run.length))

example : firstRun (fun a b : Nat => a < b) [1, 2, 2, 1] = ([1, 2, 2], [1]) := by
  decide

example : firstRun (fun a b : Nat => a < b) [3, 2, 1, 1] = ([1, 2, 3], [1]) := by
  decide

end HandlerRouting.Sort
