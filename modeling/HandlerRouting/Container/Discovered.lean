import HandlerRouting.Container
import HandlerRouting.Entries

/-!
What a container declares, name by name: the class that defines a name first, the nearest mark from
there on, and what the container gives when it is asked for the name. Each of these is said by the
lineage alone and not by a walk over all names.
-/

namespace HandlerRouting.Library

def Defines (l : Library) (c : ClassId) (name : String) : Prop :=
  name ∈ Entries.keys (l.membersOf c)

def NamesOnce (l : Library) : Prop := ∀ body ∈ l.bodies, (Entries.keys body.2).Nodup

/-- A lineage that has no class behind the root of all classes. -/
def RootLast (l : Library) (c : ClassId) : Prop :=
  ∀ below above, l.hierarchy.lineage c = below ++ Hierarchy.rootClass :: above → above = []

/-- The first class of a container's lineage, the root aside, that defines a name, and the classes
behind it. -/
structure FirstDefines (l : Library) (container definer : ClassId) (name : String)
    (above : List ClassId) : Prop where
  defines : l.Defines definer name
  notRoot : definer ≠ Hierarchy.rootClass
  first : ∃ below, l.hierarchy.lineage container = below ++ definer :: above ∧
    ∀ c ∈ below, c ≠ Hierarchy.rootClass → ¬ l.Defines c name

/-- The first mark that a name has in the classes of a list. -/
inductive Nearest (l : Library) (name : String) : List ClassId → Mark → Prop where
  | here {c : ClassId} {rest : List ClassId} {member : Member} {mark : Mark}
      (defined : l.member? c name = some member) (marked : member.mark? = some mark) :
      Nearest l name (c :: rest) mark
  | further {c : ClassId} {rest : List ClassId} {mark : Mark}
      (unmarked : ∀ member, l.member? c name = some member → member.mark? = none)
      (behind : Nearest l name rest mark) : Nearest l name (c :: rest) mark

def attribute? (l : Library) (container : ClassId) (name : String) : Option Member :=
  (l.hierarchy.lineage container).findSome? fun c => l.member? c name

/-- What can be called under a name. A value that an object holds itself stands for the member. -/
def callable? (l : Library) (container : ClassId) (instance? : Option Instance) (name : String) :
    Option Access :=
  (instance?.bind (Instance.own? · name)).getD
    ((l.attribute? container name).bind
      (Member.access container (instance?.map Instance.identity)))

/-- A container declares a handler under a name that a class defines first. -/
structure Declares (l : Library) (container : ClassId) (instance? : Option Instance)
    (definer : ClassId) (name : String) (mark : Mark) (found : Access) : Prop where
  declared : ∃ above, l.FirstDefines container definer name above ∧
    l.Nearest name (definer :: above) mark
  callable : l.callable? container instance? name = some found

/-- Names by the place of their classes in a lineage and then by their own in the class. -/
def Precedes (l : Library) (classes : List ClassId) (a b : ClassId × String) : Prop :=
  classes.idxOf a.1 < classes.idxOf b.1 ∨
    a.1 = b.1 ∧ (Entries.keys (l.membersOf a.1)).idxOf a.2 <
      (Entries.keys (l.membersOf a.1)).idxOf b.2

def described (l : Library) (definer : ClassId) (name : String) (mark : Mark) (found : Access)
    (m : TypeMemory) : Handler :=
  { function := found.function, exceptions := mark.exceptions, mediaTypes := mark.mediaTypes,
    parameterTypes := (found.parameterTypes l.hierarchy m).1,
    name := l.hierarchy.qualifiedName definer ++ "." ++ name }

/-- Handlers described one after the other. What the types of one leave remembered is known to those
behind it. -/
inductive Describes (l : Library) (container : ClassId) (instance? : Option Instance) :
    TypeMemory → List (ClassId × String) → List Handler → Prop where
  | nil {m : TypeMemory} : Describes l container instance? m [] []
  | cons {m : TypeMemory} {definer : ClassId} {name : String} {mark : Mark} {found : Access}
      {names : List (ClassId × String)} {handlers : List Handler}
      (declares : l.Declares container instance? definer name mark found)
      (behind : Describes l container instance? (found.parameterTypes l.hierarchy m).2 names
        handlers) :
      Describes l container instance? m ((definer, name) :: names)
        (l.described definer name mark found m :: handlers)

end HandlerRouting.Library
