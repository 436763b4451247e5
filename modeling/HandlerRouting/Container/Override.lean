import HandlerRouting.Container.Discovered
import HandlerRouting.RoutingTable.Declared

/-!
Classes that define handlers of another class anew. What such a class covers comes from two places:
the mark that its handlers inherit and the parameters of the functions that it puts in their place.
-/

namespace HandlerRouting

def Member.isUnmarkedFunction : Member → Bool
  | function body | staticFunction body | classFunction body => body.mark.isNone
  | _ => false

namespace Library

def namedHandlersOf (l : Library) (container : ClassId) (m : TypeMemory) :
    List (ClassId × String) → List (String × Handler)
  | [] => []
  | (definer, name) :: rest =>
    match l.handlerOf container none m definer name with
    | some (a, after) => (name, a) :: namedHandlersOf l container after rest
    | none => namedHandlersOf l container m rest

def namedHandlers (l : Library) (container : ClassId) : List (String × Handler) :=
  l.namedHandlersOf container l.types (l.definedNames container)

/-- A class whose body only puts unmarked functions in the place of handlers that a class it
descends from has. -/
structure Overrides (l : Library) (base derived : ClassId) : Prop where
  descends : base ∈ l.hierarchy.lineage derived
  differs : derived ≠ base
  handled : ∀ entry ∈ l.membersOf derived, entry.1 ∈ Entries.keys (l.namedHandlers base)
  unmarked : ∀ entry ∈ l.membersOf derived, entry.2.isUnmarkedFunction = true

/-- What a class descends from besides another one has no part in its handlers. -/
def NothingElse (l : Library) (base derived : ClassId) : Prop :=
  ∀ c ∈ l.hierarchy.lineage derived, c ≠ derived → c ∉ l.hierarchy.lineage base →
    ∀ name, l.Defines c name → l.nearestMark name (l.hierarchy.lineage derived) = none

/-- Handlers that two classes have under one name. -/
def successions (l : Library) (base derived : ClassId) : List (Handler × Handler) :=
  (l.namedHandlers base).flatMap fun upper =>
    ((l.namedHandlers derived).filter (·.1 = upper.1)).map fun lower => (upper.2, lower.2)

/-- Handlers that declare no exceptions have parameters of the same exception classes in both. -/
def ShownAlike (l : Library) (base derived : ClassId) : Prop :=
  ∀ pair ∈ l.successions base derived, pair.1.exceptions = [] →
    ∀ c, c ∈ pair.2.declaredClasses l.hierarchy ↔ c ∈ pair.1.declaredClasses l.hierarchy

/-- Names that share a route in the upper class are those of one function in the lower one. -/
def SharedTogether (l : Library) (base derived : ClassId) : Prop :=
  ∀ first ∈ l.successions base derived, ∀ second ∈ l.successions base derived,
    (∃ route ∈ first.1.declaredRoutes l.hierarchy,
      ∃ other ∈ second.1.declaredRoutes l.hierarchy, (route == other) = true) →
    first.2.function = second.2.function

/-- Where the upper class has a table, the lower one has one with the same routes. -/
def KeepsRoutes (l : Library) (base derived : ClassId) : Prop :=
  ∀ t, RoutingTable.build l.hierarchy (l.handlers base none) = .ok t →
    ∃ u, RoutingTable.build l.hierarchy (l.handlers derived none) = .ok u ∧
      ∀ route, u.has route = t.has route

structure LosesRoutes (l : Library) (base derived : ClassId) : Prop where
  built : l.hierarchy.Built
  rootLast : l.RootLast derived
  overrides : l.Overrides base derived
  lost : ¬ l.KeepsRoutes base derived

end Library

end HandlerRouting
