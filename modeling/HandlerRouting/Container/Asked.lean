import HandlerRouting.Container.Discovered
import HandlerRouting.Signature.Returning
import HandlerRouting.Signature.Flattened

/-!
Containers that are asked for their handlers more than once. Each handler is found with what is
remembered of types by then, and leaves behind it what its own types add to that.
-/

namespace HandlerRouting

def Member.signature? : Member → Option Signature
  | function body | staticFunction body | classFunction body => some body.effective
  | callable .. | value _ => none

/-- A handler as it is found, with what is remembered before its types. -/
structure Finding where
  definer : ClassId
  name : String
  mark : Mark
  found : Access
  before : TypeMemory

namespace Finding

def after (h : Hierarchy) (f : Finding) : TypeMemory := (f.found.parameterTypes h f.before).2

def Stuck (h : Hierarchy) (f : Finding) : Prop :=
  ∃ s, f.found.signature = some s ∧ s.Stuck h f.before

end Finding

/-- The object holds nothing itself under a name; a class holds nothing but its members. -/
def Unheld (instance? : Option Instance) (name : String) : Prop :=
  instance?.bind (Instance.own? · name) = none

instance (instance? : Option Instance) (name : String) : Decidable (Unheld instance? name) :=
  inferInstanceAs (Decidable (_ = none))

def Instance.Formed (object : Instance) : Prop :=
  ∀ name found s, object.own? name = some (some found) → found.signature = some s → s.Formed

namespace Library

/-- What is remembered came about by forming unions and looking names up, and all annotations are as
they come to be. -/
structure Formed (l : Library) : Prop where
  types : l.types.Sound
  members : ∀ c name member s, l.member? c name = some member → member.signature? = some s →
    s.Formed

def handlerFound (l : Library) (f : Finding) : Handler :=
  l.described f.definer f.name f.mark f.found f.before

def finding? (l : Library) (container : ClassId) (instance? : Option Instance) (m : TypeMemory)
    (definer : ClassId) (name : String) : Option Finding := do
  let upwards := (l.hierarchy.lineage container).dropWhile (· ≠ definer)
  let mark ← l.nearestMark name upwards
  let found ← l.access? container instance? name definer
  return ⟨definer, name, mark, found, m⟩

def findingsOf (l : Library) (container : ClassId) (instance? : Option Instance) (m : TypeMemory) :
    List (ClassId × String) → List Finding
  | [] => []
  | (definer, name) :: rest =>
    match l.finding? container instance? m definer name with
    | some f => f :: findingsOf l container instance? (f.after l.hierarchy) rest
    | none => findingsOf l container instance? m rest

def findings (l : Library) (container : ClassId) (instance? : Option Instance) : List Finding :=
  l.findingsOf container instance? l.types (l.definedNames container)

def knowing (l : Library) (m : TypeMemory) : Library := { l with types := m }

/-- What is remembered once a container has been asked. -/
def typesAfter (l : Library) (container : ClassId) (instance? : Option Instance) : TypeMemory :=
  (l.findings container instance?).foldl (fun _ f => f.after l.hierarchy) l.types

/-- A handler that is found again. Its types stay as they are if they were looked up the first time
or cannot be the second time either. -/
structure FoundAgain (l : Library) (f g : Finding) : Prop where
  name : (l.handlerFound g).name = (l.handlerFound f).name
  exceptions : (l.handlerFound g).exceptions = (l.handlerFound f).exceptions
  mediaTypes : (l.handlerFound g).mediaTypes = (l.handlerFound f).mediaTypes
  free : ¬ f.Stuck l.hierarchy → ¬ g.Stuck l.hierarchy
  types : ¬ f.Stuck l.hierarchy ∨ g.Stuck l.hierarchy →
    (l.handlerFound g).parameterTypes = (l.handlerFound f).parameterTypes ∧
      (l.handlerFound g).routes l.hierarchy = (l.handlerFound f).routes l.hierarchy

/-- What comes of a handler under whose name an object holds a value itself. One that cannot be
called takes it away; any other has a handler in its place, with the same declaration. -/
structure ReplacedBy (l : Library) (f : Finding) (own : Option Access) (again : List Finding) :
    Prop where
  gone : own = none → ∀ g ∈ again, g.name ≠ f.name
  instead : ∀ found, own = some found → ∃ g ∈ again, g.name = f.name ∧ g.found = found ∧
    (l.handlerFound g).name = (l.handlerFound f).name ∧
    (l.handlerFound g).exceptions = (l.handlerFound f).exceptions ∧
    (l.handlerFound g).mediaTypes = (l.handlerFound f).mediaTypes

end Library

/-- All that handlers declare, and the routes that they claim by it or why they cannot. -/
structure Handler.DeclaredAlike (h : Hierarchy) (a b : Handler) : Prop where
  name : a.name = b.name
  exceptions : a.exceptions = b.exceptions
  mediaTypes : a.mediaTypes = b.mediaTypes
  parameterTypes : a.parameterTypes = b.parameterTypes
  routes : a.routes h = b.routes h

end HandlerRouting
