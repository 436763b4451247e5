import HandlerRouting.Precedence.Merge

/-!
Sorting by runs. A list is cut into runs, each in order; runs are piled up and neighbouring ones are
merged, the later of two boundaries first when it cuts the list more finely. A list of less than
sixty-four elements is one run. This is the stable sort that `CandidateComparator.sort` hands its
comparison to.
-/

namespace HandlerRouting.Sort
variable {α : Type} (before : α → α → Bool)

/-- Runs of a list of `n` elements have at least so many: `n` is halved until it is below
sixty-four, and one more where a half was dropped. -/
def leastRunWithin (dropped : Nat) : (fuel : Nat) → (n : Nat) → Nat
  | 0, n => n + dropped
  | fuel + 1, n =>
    if n < 64 then n + dropped else leastRunWithin (max dropped (n % 2)) fuel (n / 2)

def leastRun (n : Nat) : Nat := leastRunWithin 0 n n

/-- How many binary digits of the fractions `near / total` and `far / total` it takes to tell them
apart. -/
def digitsApartWithin (total : Nat) : (fuel : Nat) → (near far : Nat) → Nat
  | 0, _, _ => 0
  | fuel + 1, near, far =>
    if total ≤ near then
      digitsApartWithin total fuel (2 * (near - total)) (2 * (far - total)) + 1
    else if total ≤ far then 1
    else digitsApartWithin total fuel (2 * near) (2 * far) + 1

def fineness (total start left right : Nat) : Nat :=
  digitsApartWithin total total (2 * start + left) (2 * start + 2 * left + right)

/-- Runs that wait to be merged, the last one first. Every run below it has the fineness of the
boundary above. -/
structure Pile (α : Type) where
  top : List α
  below : List (List α × Nat)
  patience : Nat

namespace Pile

/-- Merges downwards while the boundaries below are finer than the one above. -/
def settle (fine patience : Nat) (top : List α) : List (List α × Nat) → Pile α
  | [] => ⟨top, [], patience⟩
  | (run, its) :: below =>
    if fine < its then
      let (merged, patience) := mergeRuns before patience run top
      settle fine patience merged below
    else ⟨top, (run, its) :: below, patience⟩

def push (total : Nat) (pile : Pile α) (run : List α) : Pile α :=
  let start := (pile.below.flatMap Prod.fst).length
  let fine := fineness total start pile.top.length run.length
  let settled := settle before fine pile.patience pile.top pile.below
  ⟨run, (settled.top, fine) :: settled.below, settled.patience⟩

def collapse (patience : Nat) (top second : List α) : List (List α) → List α
  | [] => (mergeRuns before patience second top).1
  | third :: below =>
    if third.length < top.length then
      let (merged, patience) := mergeRuns before patience third second
      collapse patience top merged below
    else
      let (merged, patience) := mergeRuns before patience second top
      collapse patience merged third below

def collapsed (pile : Pile α) : List α :=
  match pile.below.map Prod.fst with
  | [] => pile.top
  | second :: below => collapse before pile.patience pile.top second below

def pushAll (floor total : Nat) : (fuel : Nat) → Pile α → List α → Pile α
  | 0, pile, _ => pile
  | _ + 1, pile, [] => pile
  | fuel + 1, pile, a :: rest =>
    let (run, others) := nextRun before floor (a :: rest)
    pushAll floor total fuel (push before total pile run) others

end Pile

def sort (items : List α) : List α :=
  let floor := leastRun items.length
  let (run, others) := nextRun before floor items
  let pile := Pile.pushAll before floor items.length others.length
    ⟨run, [], Pace.worthwhile⟩ others
  pile.collapsed before

theorem sort_nil : sort before [] = [] := rfl

example : sort (fun a b : Nat => a < b) [2, 5, 1, 4, 2] = [1, 2, 2, 4, 5] := by decide

end HandlerRouting.Sort
