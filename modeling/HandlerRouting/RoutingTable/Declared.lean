import HandlerRouting.MediaType.Repetition
import HandlerRouting.RoutingTable.Claims
import Mathlib.Data.List.ProdSigma

/-!
Declarations: what handlers ask for as they write it, repetitions included, and what can be wrong
with it. A handler that cannot say what it covers is unfit; one that is fit is still stopped where
another function has claimed one of its routes before.
-/

namespace HandlerRouting

namespace Handler

/-- The types that say which exceptions a handler covers: those that it declares, or else those of
its parameters. -/
def coverage (a : Handler) : List TypeExpr :=
  if a.exceptions.isEmpty then a.parameterTypes else a.exceptions

def declaredClasses (h : Hierarchy) (a : Handler) : List ClassId :=
  a.coverage.filterMap (TypeExpr.exceptionClass? h)

def spelledMedia? : Datum → Option MediaType
  | .text s => (MediaType.parse s).toOption
  | _ => none

def declaredMedia (a : Handler) : List MediaType :=
  if a.mediaTypes.isEmpty then [MediaType.all] else a.mediaTypes.filterMap spelledMedia?

/-- Each declared class with each declared media type, one class after the other. -/
def declaredRoutes (h : Hierarchy) (a : Handler) : List Route :=
  (a.declaredClasses h ×ˢ a.declaredMedia).map fun (c, m) => ⟨c, m⟩

def declared (h : Hierarchy) (a : Handler) : List (Route × Handler) :=
  (a.declaredRoutes h).map fun route => (route, a)

/-- The first datum of a list that spells no media type, and how it is refused. -/
inductive Unreadable (name : String) : List Datum → BuildFailure → Prop where
  | here {given : Datum} {rest : List Datum} {failure : BuildFailure}
      (refused : readMediaType name given = .error failure) :
      Unreadable name (given :: rest) failure
  | later {given : Datum} {rest : List Datum} {failure : BuildFailure}
      (read : (spelledMedia? given).isSome = true) (behind : Unreadable name rest failure) :
      Unreadable name (given :: rest) failure

/-- What is wrong with a handler by itself. Its exceptions are looked at first. -/
inductive Unfit (h : Hierarchy) (a : Handler) : BuildFailure → Prop where
  | otherTypes {others : List TypeExpr}
      (listed : a.exceptions.filter (fun t => (t.exceptionClass? h).isNone) = others)
      (found : others ≠ []) :
      Unfit h a (.defect (.noExceptionTypes a.name (some
        ("not exception classes: " ++ ", ".intercalate (others.map (TypeExpr.shown h))))))
  | noTypes (undeclared : a.exceptions = [])
      (none : ∀ t ∈ a.parameterTypes, (t.exceptionClass? h).isNone = true) :
      Unfit h a (.defect (.noExceptionTypes a.name .none))
  | mediaType {failure : BuildFailure} (known : a.KnowsExceptions h)
      (unreadable : Unreadable a.name a.mediaTypes failure) : Unfit h a failure

/-- The first of a handler's routes that is held for another function. -/
inductive Contested (held : Route → Option Handler) (a : Handler) :
    List Route → Defect → Prop where
  | here {route : Route} {rest : List Route} {existing : Handler}
      (taken : held route = some existing) (differ : existing.function ≠ a.function) :
      Contested held a (route :: rest) (.ambiguous route existing.name a.name)
  | later {route : Route} {rest : List Route} {defect : Defect}
      (free : ∀ existing, held route = some existing → existing.function = a.function)
      (behind : Contested held a rest defect) : Contested held a (route :: rest) defect

/-- What stops a handler after the given claims. Only a fit handler comes to contest a route. -/
inductive StoppedBy (h : Hierarchy) (earlier : List (Route × Handler)) (a : Handler) :
    BuildFailure → Prop where
  | unfit {failure : BuildFailure} (fault : a.Unfit h failure) : StoppedBy h earlier a failure
  | contested {defect : Defect} (known : a.KnowsExceptions h) (readable : a.KnowsMediaTypes)
      (contest : Contested (fun route => earlier.lookup route) a (a.declaredRoutes h) defect) :
      StoppedBy h earlier a (.defect defect)

end Handler

namespace RoutingTable

def declaredBy (h : Hierarchy) (handlers : List Handler) : List (Route × Handler) :=
  handlers.flatMap (Handler.declared h)

structure Valid (h : Hierarchy) (handlers : List Handler) : Prop where
  known : ∀ a ∈ handlers, a.KnowsExceptions h
  readable : ∀ a ∈ handlers, a.KnowsMediaTypes
  agree : Agree (declaredBy h handlers)

/-- The first handler that cannot follow the ones before it is one whose exceptions are known and
whose first media type that cannot be read hides a NUL character. -/
inductive MeetsNul (h : Hierarchy) (handlers : List Handler) : Prop where
  | mk {front rest : List Handler} {a : Handler} {earlier later : List Datum} {s : String}
      (listed : handlers = front ++ a :: rest) (valid : Valid h front)
      (known : a.KnowsExceptions h) (media : a.mediaTypes = earlier ++ .text s :: later)
      (read : ∀ given ∈ earlier, (Handler.spelledMedia? given).isSome = true)
      (hides : MediaType.HidesNul s.toList) : MeetsNul h handlers

end RoutingTable

end HandlerRouting
