import HandlerRouting.Hierarchy.Acceptance
import HandlerRouting.Proofs.Hierarchy.Linearization
import Mathlib.Data.Finset.Card
import Mathlib.Order.Monotone.Basic

/-!
Acceptance is found by as many steps as there are classes. Every step keeps what was accepted
before, and only a class that is there can come to accept more than its own descendants; so the
steps come to rest before they run out. What a class accepts is accepted for all that descends from
it.
-/

namespace HandlerRouting.Hierarchy
variable {h : Hierarchy} {c ancestor : ClassId} {depth : Nat}

theorem accepts_within_succ (h : Hierarchy) (depth : Nat) (ancestor c : ClassId) :
    h.acceptsWithin (depth + 1) ancestor c = true ↔ ancestor ∈ h.lineage c ∨
      ∃ delegate ∈ h.delegates ancestor, h.acceptsWithin depth delegate c = true := by
  simp [acceptsWithin]

theorem accepts_within_missing (missing : h.classes.length ≤ ancestor) (depth : Nat) :
    h.acceptsWithin depth ancestor c = true ↔ ancestor ∈ h.lineage c := by
  have none : h.delegates ancestor = [] := by simp [delegates, entry?, missing]
  cases depth <;> simp [acceptsWithin, none]

theorem accepts_within_mono (h : Hierarchy) (ancestor c : ClassId) :
    Monotone fun depth => h.acceptsWithin depth ancestor c := by
  refine monotone_nat_of_le_succ fun depth => ?_
  induction depth generalizing ancestor with
  | zero =>
    intro accepts
    exact accepts_of_lineage (by simpa [acceptsWithin] using accepts)
  | succ depth ih =>
    intro accepts
    rw [accepts_within_succ] at accepts ⊢
    rcases accepts with member | ⟨delegate, delegated, accepts⟩
    · exact Or.inl member
    · exact Or.inr ⟨delegate, delegated, ih delegate accepts⟩

def acceptors (h : Hierarchy) (c : ClassId) (depth : Nat) : Finset ClassId :=
  (Finset.range h.classes.length).filter fun ancestor => h.acceptsWithin depth ancestor c = true

theorem acceptors_mono (h : Hierarchy) (c : ClassId) : Monotone (h.acceptors c) := by
  intro fewer more le ancestor member
  rw [acceptors, Finset.mem_filter] at member ⊢
  exact ⟨member.1, accepts_within_mono h ancestor c le member.2⟩

theorem accepts_within_of_acceptors {more : Nat} (same : h.acceptors c depth = h.acceptors c more)
    (ancestor : ClassId) :
    h.acceptsWithin depth ancestor c = true ↔ h.acceptsWithin more ancestor c = true := by
  by_cases there : ancestor < h.classes.length
  · have alike := congrArg (ancestor ∈ ·) same
    simpa [acceptors, there] using alike
  · rw [accepts_within_missing (Nat.le_of_not_lt there),
      accepts_within_missing (Nat.le_of_not_lt there)]

theorem acceptors_rest (rest : h.acceptors c depth = h.acceptors c (depth + 1)) :
    h.acceptors c (depth + 1) = h.acceptors c (depth + 2) := by
  refine Finset.filter_congr fun ancestor _ => ?_
  rw [accepts_within_succ h depth, accepts_within_succ h (depth + 1)]
  simp only [accepts_within_of_acceptors rest]

theorem acceptors_settled (h : Hierarchy) (c : ClassId) :
    h.acceptors c h.classes.length = h.acceptors c (h.classes.length + 1) := by
  have grows : Monotone fun depth => (h.acceptors c depth).card :=
    fun _ _ le => Finset.card_le_card (acceptors_mono h c le)
  have bounded : ∀ depth, (h.acceptors c depth).card ≤ h.classes.length := by
    intro depth
    simpa [acceptors] using Finset.card_filter_le (Finset.range h.classes.length) _
  have rests : ∀ depth, (h.acceptors c depth).card = (h.acceptors c (depth + 1)).card →
      (h.acceptors c (depth + 1)).card = (h.acceptors c (depth + 2)).card := by
    intro depth same
    have step := Finset.eq_of_subset_of_card_le (acceptors_mono h c (Nat.le_succ depth)) same.ge
    rw [acceptors_rest step]
  have last := Nat.stabilises_of_monotone grows bounded rests (Nat.le_succ h.classes.length)
  exact Finset.eq_of_subset_of_card_le (acceptors_mono h c (Nat.le_succ _)) last.le

theorem is_subclass_iff (h : Hierarchy) (c ancestor : ClassId) :
    h.isSubclass c ancestor = true ↔ ancestor ∈ h.lineage c ∨
      ∃ delegate ∈ h.delegates ancestor, h.isSubclass c delegate = true := by
  rw [isSubclass, accepts_within_of_acceptors (acceptors_settled h c), accepts_within_succ]
  rfl

theorem accepts_of_within (accepts : h.acceptsWithin depth ancestor c = true) :
    h.Accepts c ancestor := by
  induction depth generalizing ancestor with
  | zero => exact .inherits (by simpa [acceptsWithin] using accepts)
  | succ depth ih =>
    rcases (accepts_within_succ ..).mp accepts with member | ⟨delegate, delegated, further⟩
    · exact .inherits member
    · exact .delegates delegated (ih further)

theorem is_subclass_iff_accepts (h : Hierarchy) (c ancestor : ClassId) :
    h.isSubclass c ancestor = true ↔ h.Accepts c ancestor := by
  constructor
  · exact accepts_of_within
  · intro accepts
    induction accepts with
    | inherits member => exact accepts_of_lineage member
    | @delegates ancestor delegate delegated _ ih =>
      exact (is_subclass_iff ..).mpr (Or.inr ⟨delegate, delegated, ih⟩)

/-- What is accepted for a class is accepted for all that descends from it. -/
theorem Accepts.inherited {upper lower : ClassId} (built : h.Built)
    (descends : upper ∈ h.lineage lower) (accepts : h.Accepts upper ancestor) :
    h.Accepts lower ancestor := by
  induction accepts with
  | inherits member => exact .inherits ((built.lineage_sublist descends).mem member)
  | delegates delegated _ ih => exact .delegates delegated ih

end HandlerRouting.Hierarchy
