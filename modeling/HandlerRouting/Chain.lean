import HandlerRouting.Hierarchy

/-!
Chains of raised exceptions. An exception may have a cause, which it was raised from, and a context,
which it was raised in. Following these links from one exception gives its chain; links may lead in
circles, and a chain stops before it repeats an exception. `next` is `_next_in_chain`, and `chain`
is the sequence of exceptions that `resolve_by_exception` goes through.
-/

namespace HandlerRouting

structure Raised where
  cls : ClassId
  cause : Option Nat := none
  context : Option Nat := none
  suppressed : Bool := false
deriving DecidableEq, Repr

/-- Exceptions that refer to each other by their place. -/
abbrev Raisings := List Raised

namespace Raised

def withCause (cause : Option Nat) (x : Raised) : Raised :=
  match cause with
  | some _ => { x with cause, suppressed := true }
  | none => x

def next (followContext : Bool) (x : Raised) : Option Nat :=
  if x.cause.isSome then x.cause
  else if followContext && !x.suppressed then x.context
  else none

end Raised

namespace Raisings

def next (g : Raisings) (followContext : Bool) (x : Nat) : Option Nat :=
  (g[x]?).bind (Raised.next followContext)

/-- The chain from an exception on, without those visited before, at most `fuel` long. -/
def chainFrom (g : Raisings) (followContext : Bool) : (fuel : Nat) → List Nat → Nat → List Nat
  | 0, _, _ => []
  | fuel + 1, visited, x =>
    if visited.contains x || g.length ≤ x then []
    else match g.next followContext x with
      | some y => x :: chainFrom g followContext fuel (x :: visited) y
      | none => [x]

/-- The distinct exceptions that the links lead to, in order. There are no more than all. -/
def chain (g : Raisings) (followContext : Bool) (start : Nat) : List Nat :=
  g.chainFrom followContext g.length [] start

def nth (g : Raisings) (followContext : Bool) (start : Nat) : Nat → Option Nat
  | 0 => some start
  | links + 1 => (g.nth followContext start links).bind (g.next followContext)

/-- Every link leads to an exception that is there. -/
def Closed (g : Raisings) : Prop :=
  ∀ x ∈ g, (∀ y ∈ x.cause, y < g.length) ∧ ∀ y ∈ x.context, y < g.length

def classOf (g : Raisings) (x : Nat) : ClassId :=
  match g[x]? with
  | some raised => raised.cls
  | none => 0

theorem next_lt {g : Raisings} {followContext : Bool} {x y : Nat} (closed : g.Closed)
    (linked : g.next followContext x = some y) : y < g.length := by
  simp only [next, Option.bind_eq_some_iff] at linked
  obtain ⟨raised, found, linked⟩ := linked
  obtain ⟨causes, contexts⟩ := closed raised (List.mem_of_getElem? found)
  unfold Raised.next at linked
  split at linked
  · exact causes y linked
  · split at linked
    · exact contexts y linked
    · cases linked

theorem chain_from_nodup (g : Raisings) (followContext : Bool) (fuel : Nat) (visited : List Nat)
    (x : Nat) :
    (g.chainFrom followContext fuel visited x).Nodup ∧
      ∀ y ∈ g.chainFrom followContext fuel visited x, y ∉ visited := by
  induction fuel generalizing visited x with
  | zero => simp [chainFrom]
  | succ fuel ih =>
    simp only [chainFrom]
    split
    · simp
    · rename_i fresh
      simp only [Bool.or_eq_true, List.contains_iff_mem, not_or] at fresh
      split
      · rename_i y _
        obtain ⟨distinct, apart⟩ := ih (x :: visited) y
        refine ⟨List.nodup_cons.mpr ⟨fun member => apart x member (by simp), distinct⟩, ?_⟩
        intro z member
        rcases List.mem_cons.mp member with rfl | later
        · exact fresh.1
        · exact fun met => apart z later (List.mem_cons_of_mem _ met)
      · simpa using fresh.1

theorem chain_nodup (g : Raisings) (followContext : Bool) (start : Nat) :
    (g.chain followContext start).Nodup := (chain_from_nodup ..).1

end Raisings

end HandlerRouting
