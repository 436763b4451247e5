import HandlerRouting.Chain

/-!
Raised exceptions with their causes alone. A chain that does not follow contexts is the same
whatever the contexts are.
-/

namespace HandlerRouting

def Raised.causeOnly (x : Raised) : Raised := { cls := x.cls, cause := x.cause }

namespace Raisings

def causesOnly (g : Raisings) : Raisings := g.map Raised.causeOnly

theorem class_of_causes_only (g : Raisings) (x : Nat) : g.causesOnly.classOf x = g.classOf x := by
  simp only [classOf, causesOnly, List.getElem?_map]
  cases g[x]? <;> rfl

theorem next_causes_only (g : Raisings) (x : Nat) : g.causesOnly.next false x = g.next false x := by
  simp only [next, causesOnly, List.getElem?_map]
  cases g[x]? <;> rfl

theorem chain_from_causes_only (g : Raisings) (fuel : Nat) (visited : List Nat) (x : Nat) :
    g.causesOnly.chainFrom false fuel visited x = g.chainFrom false fuel visited x := by
  have size : g.causesOnly.length = g.length := List.length_map ..
  induction fuel generalizing visited x with
  | zero => rfl
  | succ fuel ih => simp only [chainFrom, size, next_causes_only, ih]

theorem chain_causes_only (g : Raisings) (start : Nat) :
    g.causesOnly.chain false start = g.chain false start := by
  rw [chain, chain, chain_from_causes_only, causesOnly, List.length_map]

theorem next_of_cause {g : Raisings} {x y : Nat} (linked : g.next false x = some y) :
    g.next true x = some y := by
  obtain ⟨raised, found, own⟩ := Option.bind_eq_some_iff.mp linked
  rw [next, found, Option.bind_some]
  cases cause : raised.cause with
  | none => simp [Raised.next, cause] at own
  | some z => simpa [Raised.next, cause] using own

theorem chain_from_prefix (g : Raisings) (fuel : Nat) (visited : List Nat) (x : Nat) :
    g.chainFrom false fuel visited x <+: g.chainFrom true fuel visited x := by
  induction fuel generalizing visited x with
  | zero => exact List.prefix_rfl
  | succ fuel ih =>
    simp only [chainFrom]
    split
    · exact List.prefix_rfl
    · cases linked : g.next false x with
      | some y =>
        rw [next_of_cause linked]
        exact (List.prefix_cons_inj x).mpr (ih (x :: visited) y)
      | none =>
        -- The causes end here; a context may lead on.
        cases g.next true x with
        | none => exact List.prefix_rfl
        | some y => exact List.prefix_append [x] _

theorem chain_prefix (g : Raisings) (start : Nat) :
    g.chain false start <+: g.chain true start := chain_from_prefix ..

end Raisings

end HandlerRouting
