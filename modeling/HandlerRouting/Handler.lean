import HandlerRouting.Datum
import HandlerRouting.TypeExpr

/-!
Handlers: a function that handles exceptions, with what was declared about it. The function is known
by its identity; two references to it are the same when the receiver they are bound to is the same
too. `Handler` is a `HandlerDescriptor`; `Mark` is an `ExceptionHandlerDeclaration` as
`exception_handler` makes it.
-/

namespace HandlerRouting

inductive Receiver where
  | object (identity : String)
  | cls (id : ClassId)
deriving DecidableEq, Repr

structure FunctionRef where
  identity : String
  receiver : Option Receiver := none
deriving DecidableEq, Repr

structure FunctionTitle where
  module : Option String
  name : String
deriving DecidableEq, Repr

namespace FunctionTitle

def silentModules : List String := ["", "builtins", "__main__"]

def qualified (title : FunctionTitle) : String :=
  match title.module with
  | some module => if silentModules.contains module then title.name else module ++ "." ++ title.name
  | none => title.name

end FunctionTitle

structure Handler where
  function : FunctionRef
  exceptions : List TypeExpr := []
  mediaTypes : List Datum := []
  parameterTypes : List TypeExpr := []
  name : String

namespace Handler

instance : BEq Handler where
  beq a b := a.function == b.function && TypeExpr.sameAll a.exceptions b.exceptions &&
    TypeExpr.sameAll a.parameterTypes b.parameterTypes && a.name == b.name &&
      Datum.sameItems a.mediaTypes b.mediaTypes

def declaresExceptions (a : Handler) : Bool := !a.exceptions.isEmpty

def declaresMediaTypes (a : Handler) : Bool := !a.mediaTypes.isEmpty

def sameFunction (a b : Handler) : Bool := a.function == b.function

theorem same_function_iff (a b : Handler) : a.sameFunction b = true ↔ a.function = b.function := by
  simp [sameFunction]

def titled (title : FunctionTitle) (a : Handler) : Handler :=
  if a.name.isEmpty then { a with name := title.qualified } else a

structure Indivisible where
  given : Datum

def Indivisible.message (failure : Indivisible) : String :=
  "'" ++ failure.given.kind ++ "' object is not iterable"

def unexpectedMessage (field : String) : String :=
  "HandlerDescriptor.__init__() got an unexpected keyword argument '" ++ field ++ "'"

def itemsOf : Datum → Except Indivisible (List Datum)
  | .text s => .ok (s.toList.map fun c => .text c.toString)
  | .list items => .ok items
  | .record fields => .ok (fields.map Prod.fst)
  | other => .error ⟨other⟩

/-- Media types as a record declares them: under their own name or else under the other one; a text
is one media type. -/
def recordMediaTypes (mediaTypes produces : Datum) : Except Indivisible (List Datum) :=
  let given := if mediaTypes.isNothing then produces else mediaTypes
  if given.isNothing then .ok []
  else match given with
    | .text s => .ok [.text s]
    | other => itemsOf other

end Handler

/-- The mark that declares a function as a handler: the exceptions and media types that it names,
both possibly none. -/
structure Mark where
  exceptions : List TypeExpr := []
  mediaTypes : List Datum := []

namespace Mark

def bare : Mark := {}

def isBare (mark : Mark) : Bool := mark.exceptions.isEmpty && mark.mediaTypes.isEmpty

/-- Why a mark cannot be made. A lone type expression that can be called, but is no class, is taken
for the function to be marked. -/
inductive Flaw where
  | media (failure : Handler.Indivisible)
  | genericMarked
  | unionCalled

def Flaw.code : Flaw → String
  | genericMarked => "AttributeError"
  | media _ | unionCalled => "TypeError"

def Flaw.message : Flaw → String
  | media failure => failure.message
  | genericMarked => "'types.GenericAlias' object has no attribute '__exception_handler__'"
  | unionCalled => "Cannot instantiate typing.Union"

def calledFlaw? : List TypeExpr → Option Flaw
  | [.generic ..] => some .genericMarked
  | [.union false _] => some .unionCalled
  | _ => none

def mediaOf (mediaTypes produces : Datum) : Except Handler.Indivisible (List Datum) := do
  let listed ← Handler.itemsOf mediaTypes
  let produced ← match produces with
    | .null => .ok []
    | .text s => .ok [.text s]
    | other => Handler.itemsOf other
  return listed ++ produced

def make (exceptions : List TypeExpr) (mediaTypes produces : Datum) : Except Flaw Mark :=
  match calledFlaw? exceptions with
  | some flaw => .error flaw
  | none =>
    match mediaOf mediaTypes produces with
    | .ok media => .ok ⟨exceptions, media⟩
    | .error failure => .error (.media failure)

end Mark

end HandlerRouting
