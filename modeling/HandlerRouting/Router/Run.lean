import HandlerRouting.Router

/-!
Runs of a router: many queries put to it one after another, each answered by the router that the
ones before it have left.
-/

namespace HandlerRouting

/-- What a router can be asked: about a class, about a raised exception, or about a value that is
taken for one. -/
inductive Query where
  | exceptionClass (wanted : TypeExpr) (media : MediaRequest)
  | raised (raisings : Raisings) (start : Nat) (media : MediaRequest)
  | value (value : TypeExpr)

namespace Router

def answer (r : Router) : Query → Lookup (Except LookupRefusal (Option Handler))
  | .exceptionClass wanted media => r.resolveClass wanted media
  | .raised raisings start media => r.resolveRaised raisings start media
  | .value value => r.refuseValue value

def fresh (r : Router) : Router := { r with cache := r.cache.clear }

def after (r : Router) (queries : List Query) : Router :=
  queries.foldl (fun r query => (r.answer query).router) r

def outcomes (r : Router) : List Query → List (Except LookupRefusal (Option Handler))
  | [] => []
  | query :: rest => (r.answer query).outcome :: (r.answer query).router.outcomes rest

def events (r : Router) : List Query → List Event
  | [] => []
  | query :: rest => (r.answer query).events ++ (r.answer query).router.events rest

end Router

end HandlerRouting
