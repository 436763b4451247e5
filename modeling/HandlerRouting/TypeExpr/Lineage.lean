import HandlerRouting.TypeExpr.Union

/-!
Type expressions where a class is wanted. Classes have a lineage and a name; a generic has those of
its origin. Most others lack the one or the other.
-/

namespace HandlerRouting.TypeExpr

inductive ClassFlaw where
  | lineage (kind : String)
  | listLineage
  | module (kind : String)
  | name (kind : String)
deriving DecidableEq, Repr

def ClassFlaw.message : ClassFlaw → String
  | lineage kind => "'" ++ kind ++ "' object has no attribute '__mro__'"
  | listLineage => "__mro__"
  | module kind => "'" ++ kind ++ "' object has no attribute '__module__'"
  | name kind => "'" ++ kind ++ "' object has no attribute '__qualname__'"

variable (h : Hierarchy)

def lineage : TypeExpr → Except ClassFlaw (List ClassId)
  | cls c => .ok (h.lineage c)
  | generic origin _ => .ok (h.lineage origin)
  | union false _ => .error .listLineage
  | t => .error (.lineage (t.kind h))

/-- How far up a lineage a type expression stands. All but classes come after all of it. -/
def placeIn (lineage : List ClassId) : TypeExpr → Nat
  | cls c => lineage.idxOf c
  | _ => lineage.length

def distance (t ancestor : TypeExpr) : Except ClassFlaw Nat :=
  (t.lineage h).map fun lineage => ancestor.placeIn lineage

def isOptional (members : List TypeExpr) : Bool :=
  members.length = 2 && members.contains (cls Hierarchy.noneClass)

def fullName : TypeExpr → Except ClassFlaw String
  | cls c | generic c _ => .ok (h.display c)
  | union false members => .ok (if isOptional members then "typing.Optional" else "typing.Union")
  | union true members => .error (.name ((union true members).kind h))
  | forward i s => .error (.name ((forward i s).kind h))
  | t => .error (.module (t.kind h))

end HandlerRouting.TypeExpr
