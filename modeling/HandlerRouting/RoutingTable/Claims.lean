import HandlerRouting.RoutingTable

/-!
Claims: what a list of handlers asks of a table, said without building it. A list is valid when
every handler can say what it claims and no route is claimed by two functions; its table then holds
the first claim on every route.
-/

namespace HandlerRouting

namespace Handler

/-- The exceptions of a handler are known: it declares some, and all of them are exception classes,
or it declares none and has a parameter that is one. -/
def KnowsExceptions (h : Hierarchy) (a : Handler) : Prop :=
  (a.exceptions ≠ [] ∧ ∀ t ∈ a.exceptions, (t.exceptionClass? h).isSome = true) ∨
    (a.exceptions = [] ∧ ∃ t ∈ a.parameterTypes, (t.exceptionClass? h).isSome = true)

def KnowsMediaTypes (a : Handler) : Prop :=
  ∀ given ∈ a.mediaTypes, ∃ s m, given = .text s ∧ MediaType.parse s = .ok m

/-- The claims of one handler; none when it cannot say what it claims. -/
def claims (h : Hierarchy) (a : Handler) : List (Route × Handler) :=
  match a.routes h with
  | .ok routes => routes.map fun route => (route, a)
  | .error _ => []

end Handler

namespace RoutingTable

def claimsOf (h : Hierarchy) (handlers : List Handler) : List (Route × Handler) :=
  handlers.flatMap (Handler.claims h)

/-- No route is claimed by two functions. -/
def Agree (claims : List (Route × Handler)) : Prop :=
  ∀ x ∈ claims, ∀ y ∈ claims, (x.1 == y.1) = true → x.2.function = y.2.function

/-- The claims on routes that are not taken, and on each of them the first one alone. -/
def firstClaims (taken : List Route) : List (Route × Handler) → List (Route × Handler)
  | [] => []
  | (route, a) :: rest =>
    if taken.any (· == route) then firstClaims taken rest
    else (route, a) :: firstClaims (route :: taken) rest

theorem first_claims_sublist (taken : List Route) (claims : List (Route × Handler)) :
    (firstClaims taken claims).Sublist claims := by
  induction claims generalizing taken with
  | nil => exact List.Sublist.slnil
  | cons first rest ih =>
    obtain ⟨route, a⟩ := first
    unfold firstClaims
    split
    · exact (ih taken).cons _
    · exact (ih (route :: taken)).cons_cons _

theorem agree_nil : Agree [] := by
  intro x member
  cases member

end RoutingTable

end HandlerRouting
