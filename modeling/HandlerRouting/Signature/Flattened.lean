import HandlerRouting.TypeExpr.Widening

/-!
What the types of a signature's parameters should be: the members of the parameters' annotations,
each where it comes up first.
-/

namespace HandlerRouting.Signature

/-- All annotations are as they come to be, and so are the values in scope. -/
structure Formed (s : Signature) : Prop where
  annotated : ∀ t ∈ s.annotations ++ s.returns.toList, t.Formed
  scope : s.scope.Formed

def withParams (s : Signature) (params : List (String × Option TypeExpr)) : Signature :=
  { s with params }

/-- Types that are flattened from annotations. They keep the order of the members, come after
nothing that equals them, and leave no member out. -/
structure FlattenedFrom (hints types : List TypeExpr) : Prop where
  ordered : types.Sublist (hints.flatMap TypeExpr.members)
  first : ∀ t ∈ types, ∃ front back, hints.flatMap TypeExpr.members = front ++ t :: back ∧
    ∀ u ∈ front, (u == t) = false
  apart : types.Pairwise fun t u => (t == u) = false
  listed : ∀ t ∈ types, ∃ hint ∈ hints, hint.Lists t
  complete : ∀ hint ∈ hints, ∀ t, hint.Lists t → ∃ u ∈ types, (u == t) = true
  single : ∀ t ∈ types, ∀ barred parts, t ≠ .union barred parts
  value : ∀ t ∈ types, t ≠ .none ∧ t ≠ .cls Hierarchy.noneClass

/-- An annotation comes to mean what it is looked up as, after whatever has been remembered; that is
itself where nothing in it is to be looked up. A text means what it reads as, if that does. -/
structure Means (h : Hierarchy) (s : Signature) (t hint : TypeExpr) : Prop where
  looked : ∃ before : TypeMemory, before.Sound ∧
    (t.asAnnotation.resolve h (s.scope.lookUp h) before).1 = some hint
  itself : t.StandsForItself h → hint = t
  read : ∀ name, t = .text name → ∃ e u, ∃ before : TypeMemory, before.Sound ∧
    s.scope.read name = some e ∧ (e.form h before).1 = some u ∧ (u.StandsForItself h → hint = u)

end HandlerRouting.Signature
