import HandlerRouting.Hierarchy

/-!
Acceptance: which classes a class accepts, said without counting steps.
-/

namespace HandlerRouting.Hierarchy

/-- A class accepts what descends from it, and what one of its delegates accepts. -/
inductive Accepts (h : Hierarchy) (c : ClassId) : ClassId → Prop where
  | inherits {ancestor : ClassId} (member : ancestor ∈ h.lineage c) : Accepts h c ancestor
  | delegates {ancestor delegate : ClassId} (delegated : delegate ∈ h.delegates ancestor)
      (accepts : Accepts h c delegate) : Accepts h c ancestor

end HandlerRouting.Hierarchy
