import HandlerRouting.TypeExpr.Expression

/-!
Signatures of functions: parameters in order, some of them annotated. The annotations of a function
are looked up together, the one of its result included: when one of them stands for nothing, all
stay as they were written. A name that has been looked up keeps its meaning, wherever the union that
it belongs to is written again. `parameterTypes` is `parameter_types_of`, and `TypeExpr.members` is
its `_flatten`.
-/

namespace HandlerRouting

/-- How texts read where a function is defined, and how deep they can be evaluated inside one
another. -/
structure Scope where
  read : String → Option Expression
  depth : Nat := 0

/-- A scope that knows classes by their names, and no value by its own. -/
def Scope.ofClasses (classes : List (String × ClassId)) : Scope where
  read name :=
    match classes.lookup name with
    | some id => some (.value (.cls id))
    | none => if name = "None" then some (.value .none) else none

instance : Coe (List (String × ClassId)) Scope := ⟨Scope.ofClasses⟩

structure Signature where
  scope : Scope
  params : List (String × Option TypeExpr)
  returns : Option TypeExpr := none

namespace TypeExpr

def genericOrigins : List ClassId :=
  ["list", "dict", "tuple", "set", "BaseExceptionGroup"].map Hierarchy.builtinPlace

def takesArguments (h : Hierarchy) (origin : ClassId) : Bool :=
  (h.lineage origin).any genericOrigins.contains

/-- A union whose members have been looked up. -/
def reunited (barred : Bool) (members found : List TypeExpr) : Search TypeExpr :=
  if sameAll found members then pure (union barred members)
  else if barred then pure (joined true found)
  else Search.forming fun m => .ok (unite found m)

def asAnnotation : TypeExpr → TypeExpr
  | none => cls Hierarchy.noneClass
  | t => t

variable (h : Hierarchy) (lookUp : Option Nat → String → Search TypeExpr)

mutual

/-- A type expression with every name in it looked up. -/
def resolve : TypeExpr → Search TypeExpr
  | text name => lookUp Option.none name
  | forward identity name => lookUp identity name
  | generic origin args =>
    if takesArguments h origin then do return generic origin (← resolveAll args)
    else Search.nothing
  | union barred parts => do reunited barred parts (← resolveAll parts)
  | t => pure t

def resolveAll : List TypeExpr → Search (List TypeExpr)
  | [] => pure []
  | t :: rest => do
    let first ← resolve t
    let others ← resolveAll rest
    return first :: others

end

end TypeExpr

namespace Scope
variable (h : Hierarchy)

/-- A name stays as it is while it is being evaluated itself. -/
def lookUpWithin (evaluate : String → Search TypeExpr) (within : List String)
    (identity : Option Nat) (name : String) : Search TypeExpr :=
  if within.contains name then pure (.forward identity name)
  else Search.once identity (evaluate name)

/-- What a text stands for. Names in what it evaluates to are looked up in turn. -/
def evaluate (scope : Scope) : Nat → List String → String → Search TypeExpr
  | 0, _, _ => Search.nothing
  | depth + 1, within, name => do
    let e ← Search.ofOption (scope.read name)
    let t ← e.form h
    t.asAnnotation.resolve h (lookUpWithin (scope.evaluate depth (name :: within)) (name :: within))

def lookUp (scope : Scope) : Option Nat → String → Search TypeExpr :=
  lookUpWithin (scope.evaluate h (scope.depth + 1) []) []

end Scope

namespace Signature

def annotations (s : Signature) : List TypeExpr := s.params.filterMap Prod.snd

/-- All annotations looked up, those of the parameters first. What has been remembered when one of
them fails stays remembered. -/
def evaluated (h : Hierarchy) (s : Signature) (m : TypeMemory) :
    Option (List TypeExpr) × TypeMemory :=
  TypeExpr.resolveAll h (s.scope.lookUp h)
    ((s.annotations ++ s.returns.toList).map TypeExpr.asAnnotation) m

/-- The parameters' annotations, looked up if all of the function's annotations can be. -/
def hints (h : Hierarchy) (s : Signature) (m : TypeMemory) : List TypeExpr :=
  match (s.evaluated h m).1 with
  | some found => found.take s.annotations.length
  | none => s.annotations

def parameterTypes (h : Hierarchy) (s : Signature) (m : TypeMemory) : List TypeExpr :=
  distinct ((s.hints h m).flatMap TypeExpr.members)

end Signature

end HandlerRouting
