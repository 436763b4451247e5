import HandlerRouting.Route
import HandlerRouting.TypeExpr.Lineage

/-!
Keys: what a table may be asked for, any type expression together with a media type. A key whose
type is a class is a route; a table holds no others. A key is a `MappingKey` as it is made, from any
type at all.
-/

namespace HandlerRouting

structure Key where
  type : TypeExpr
  media : MediaType

namespace Key

instance : BEq Key where
  beq a b := a.type == b.type && a.media == b.media

def route? (key : Key) : Option Route :=
  match key.type with
  | .cls c => some ⟨c, key.media⟩
  | _ => none

def ofRoute (route : Route) : Key := ⟨.cls route.exception, route.media⟩

variable (h : Hierarchy)

def text (key : Key) : Except TypeExpr.ClassFlaw String :=
  (key.type.fullName h).map fun name => name ++ " @ " ++ key.media.text

def shown (key : Key) : String :=
  "MappingKey(exception_type=" ++ key.type.shown h ++ ", media_type=" ++ key.media.shown ++ ")"

end Key

end HandlerRouting
