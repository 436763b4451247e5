import HandlerRouting.Event
import HandlerRouting.Handler
import HandlerRouting.Signature

/-!
Containers: classes whose members may be marked as handlers. A member name stands for what the
nearest class of the lineage defines it as. It declares a handler when that definition, or one
further up, carries a mark; so a definition that replaces a marked one stays a handler. `handlers`
is `discover_handlers`, `Member.mark?` is `declaration_of`, and `nearestMark` is
`_nearest_declaration`.
-/

namespace HandlerRouting

structure FunctionBody where
  identity : String
  mark : Option Mark := none
  signature : Signature
  wrapped : Option Signature := none

def FunctionBody.effective (f : FunctionBody) : Signature := f.wrapped.getD f.signature

inductive Member where
  | function (body : FunctionBody)
  | staticFunction (body : FunctionBody)
  | classFunction (body : FunctionBody)
  /-- An object that can be called, but has no parameters to look at. -/
  | callable (identity : String) (mark : Option Mark)
  | value (datum : Datum)

def Member.mark? : Member → Option Mark
  | function body | staticFunction body | classFunction body => body.mark
  | callable _ mark => mark
  | value _ => none

structure Access where
  function : FunctionRef
  signature : Option Signature

/-- A member asked for through a class, or through an object of that class. Values give nothing that
can be called. -/
def Member.access (container : ClassId) (instance? : Option String) : Member → Option Access
  | function body =>
    some ⟨⟨body.identity, instance?.map .object⟩, some body.effective⟩
  | staticFunction body => some ⟨⟨body.identity, none⟩, some body.effective⟩
  | classFunction body =>
    some ⟨⟨body.identity, some (.cls container)⟩, some body.effective⟩
  | callable identity _ => some ⟨⟨identity, none⟩, none⟩
  | value _ => none

def Access.parameterTypes (h : Hierarchy) (found : Access) (m : TypeMemory) :
    List TypeExpr × TypeMemory :=
  match found.signature with
  | some s => (s.parameterTypes h m, (s.evaluated h m).2)
  | none => ([], m)

structure Library where
  hierarchy : Hierarchy
  bodies : List (ClassId × List (String × Member)) := []
  types : TypeMemory := {}

/-- An object of a container. Values that it holds itself stand before the members of its class, be
it that they cannot be called or that they can. -/
structure Instance where
  identity : String
  ownNames : List String := []
  callables : List (String × Access) := []

def Instance.own? (object : Instance) (name : String) : Option (Option Access) :=
  match object.callables.lookup name with
  | some found => some (some found)
  | none => if object.ownNames.contains name then some none else none

namespace Library

def membersOf (l : Library) (c : ClassId) : List (String × Member) := (l.bodies.lookup c).getD []

def member? (l : Library) (c : ClassId) (name : String) : Option Member :=
  (l.membersOf c).lookup name

def levels (l : Library) (c : ClassId) : List ClassId :=
  (l.hierarchy.lineage c).filter (· ≠ Hierarchy.rootClass)

def namesFrom (l : Library) (seen : List String) : List ClassId → List (ClassId × String)
  | [] => []
  | c :: rest =>
    let fresh := ((l.membersOf c).map Prod.fst).filter (!seen.contains ·)
    fresh.map (c, ·) ++ namesFrom l (seen ++ fresh) rest

def definedNames (l : Library) (container : ClassId) : List (ClassId × String) :=
  l.namesFrom [] (l.levels container)

def nearestMark (l : Library) (name : String) (lineage : List ClassId) : Option Mark :=
  lineage.findSome? fun c => (l.member? c name).bind Member.mark?

def access? (l : Library) (container : ClassId) (instance? : Option Instance) (name : String)
    (definer : ClassId) : Option Access :=
  (instance?.bind (Instance.own? · name)).getD
    ((l.member? definer name).bind (Member.access container (instance?.map Instance.identity)))

/-- The handler that a name declares, if it declares one, and what is remembered after it. -/
def handlerOf (l : Library) (container : ClassId) (instance? : Option Instance) (m : TypeMemory)
    (definer : ClassId) (name : String) : Option (Handler × TypeMemory) :=
  let upwards := (l.hierarchy.lineage container).dropWhile (· ≠ definer)
  match l.nearestMark name upwards, l.access? container instance? name definer with
  | some mark, some found =>
    let (parameterTypes, after) := found.parameterTypes l.hierarchy m
    some ({ function := found.function, exceptions := mark.exceptions,
            mediaTypes := mark.mediaTypes, parameterTypes,
            name := l.hierarchy.qualifiedName definer ++ "." ++ name }, after)
  | _, _ => none

def handlersOf (l : Library) (container : ClassId) (instance? : Option Instance) (m : TypeMemory) :
    List (ClassId × String) → List Handler
  | [] => []
  | (definer, name) :: rest =>
    match l.handlerOf container instance? m definer name with
    | some (a, after) => a :: handlersOf l container instance? after rest
    | none => handlersOf l container instance? m rest

/-- The handlers of a container, by the class that defines them and then by their place in it. -/
def handlers (l : Library) (container : ClassId) (instance? : Option Instance) : List Handler :=
  l.handlersOf container instance? l.types (l.definedNames container)

def discoveryEvents (l : Library) (container : ClassId) (instance? : Option Instance) :
    List Event :=
  let name := l.hierarchy.qualifiedName container
  let found := l.handlers container instance?
  found.map (fun a =>
    ⟨.trace, "Discovered exception handler", [("container", name), ("function", a.name)]⟩) ++
  [⟨.debug, "Discovered " ++ toString found.length ++ " exception handlers",
    [("container", name)]⟩]

end Library

end HandlerRouting
