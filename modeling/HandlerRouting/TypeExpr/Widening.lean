import HandlerRouting.TypeExpr.Formed

/-!
What type expressions list, and unions that list more. A class may be widened by no value and by
types that are there already.
-/

namespace HandlerRouting

namespace TypeExpr

/-- What is no union lists itself, but for the class of no value. A union lists what its members
list. -/
inductive Lists : TypeExpr → TypeExpr → Prop where
  | itself {t : TypeExpr} (single : ∀ barred parts, t ≠ union barred parts)
      (value : t ≠ cls Hierarchy.noneClass) : Lists t t
  | member {barred : Bool} {parts : List TypeExpr} {part t : TypeExpr} (among : part ∈ parts)
      (inside : Lists part t) : Lists (union barred parts) t

/-- What can stand beside a class without adding to the types known before: the class itself, no
value, and earlier types, whole or one of those that they list. -/
def AddsNothing (c : ClassId) (earlier : List TypeExpr) (part : TypeExpr) : Prop :=
  part = cls c ∨ part = none ∨ part = cls Hierarchy.noneClass ∨
    ∃ t ∈ earlier, part = t ∨ t.Lists part

end TypeExpr

namespace Expression

/-- A union as it is written: as a list, as an option or with bars, one inside another too. It has
types at its ends. Numbers are none; a bar between them makes no union. -/
inductive Unites (h : Hierarchy) : Expression → List TypeExpr → Prop where
  | value (t : TypeExpr) : Unites h (value t) [t]
  | made {make : List TypeExpr → Option TypeExpr} {parts : List Expression} {t : TypeExpr}
      (formed : (made make parts).Formed)
      (always : ∀ (m : TypeMemory) (u : TypeExpr), m.Sound →
        ((made make parts).form h m).1 = some u → u.same t = true) : Unites h (made make parts) [t]
  | listed {parts : List Expression} (ends : Expression → List TypeExpr)
      (inside : ∀ e ∈ parts, Unites h e (ends e)) : Unites h (listed parts) (parts.flatMap ends)
  | optional {part : Expression} {ends : List TypeExpr} (inside : Unites h part ends) :
      Unites h (optional part) (ends ++ [.none])
  | bar {left right : Expression} {ends endsToo : List TypeExpr} (first : Unites h left ends)
      (second : Unites h right endsToo) (types : ∀ t ∈ ends, ∀ n, ¬ t.Lists (.int n)) :
      Unites h (bar left right) (ends ++ endsToo)

/-- An annotation that an expression makes: what it was formed as once, or a text that reads as it
and can be formed. -/
inductive Writes (h : Hierarchy) (scope : Scope) (e : Expression) : TypeExpr → Prop where
  | formed {m : TypeMemory} {t : TypeExpr} (sound : m.Sound) (made : (e.form h m).1 = some t) :
      Writes h scope e t
  | text {name : String} (reads : scope.read name = some e)
      (forms : ∀ m : TypeMemory, m.Sound → (e.form h m).1.isSome = true) :
      Writes h scope e (.text name)

/-- A union of a class with no value or with earlier types, in which no names are left. -/
structure Widens (h : Hierarchy) (c : ClassId) (earlier : List TypeExpr) (e : Expression)
    (ends : List TypeExpr) : Prop where
  unites : e.Unites h ends
  own : .cls c ∈ ends
  adds : ∀ t ∈ ends, t.AddsNothing c earlier
  settled : ∀ t ∈ ends, t.settled h = true

end Expression

end HandlerRouting
