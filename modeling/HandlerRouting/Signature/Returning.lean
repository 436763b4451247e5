import HandlerRouting.RoutingTable.Declared
import HandlerRouting.TypeExpr.Formed

/-!
Functions that differ in the annotation of their result alone, and what handlers without exceptions
of their own cover by them.
-/

namespace HandlerRouting

namespace Signature

def returning (s : Signature) (returns : Option TypeExpr) : Signature := { s with returns }

/-- One of the annotations stands for nothing, the result's included. -/
def Stuck (h : Hierarchy) (s : Signature) (m : TypeMemory) : Prop := (s.evaluated h m).1 = none

/-- What the annotations of the parameters show as they are written. -/
def written (s : Signature) : List TypeExpr := distinct (s.annotations.flatMap TypeExpr.members)

end Signature

/-- A handler that declares no exceptions goes by the parameters of its function. -/
structure Handler.GoesBy (a : Handler) (types : List TypeExpr) : Prop where
  silent : a.exceptions = []
  shown : a.parameterTypes = types

end HandlerRouting
