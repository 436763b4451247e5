/-!
Classes and what they descend from. A class has a lineage: itself, then its ancestors, every class
before its own bases and bases in their given order. Abstract classes also accept classes that
descend from elsewhere and are registered with them. Lineages are what `hierarchy_distance` and
`discover_handlers` go along, and `isSubclass` is what `_find_best_match` asks of the class of a
route.
-/

namespace HandlerRouting

abbrev ClassId := Nat

structure ClassEntry where
  module : String
  name : String
  bases : List ClassId
  lineage : List ClassId
  abstract : Bool := false
  registered : List ClassId := []
deriving DecidableEq, Repr

/-- Classes in the order in which they were defined; a class is known by its place. -/
structure Hierarchy where
  classes : List ClassEntry
deriving DecidableEq, Repr

namespace Hierarchy

def entry? (h : Hierarchy) (c : ClassId) : Option ClassEntry := h.classes[c]?

def lineage (h : Hierarchy) (c : ClassId) : List ClassId :=
  match h.entry? c with
  | some entry => entry.lineage
  | none => []

def isAbstract (h : Hierarchy) (c : ClassId) : Bool :=
  match h.entry? c with
  | some entry => entry.abstract
  | none => false

def qualifiedName (h : Hierarchy) (c : ClassId) : String :=
  match h.entry? c with
  | some entry => entry.name
  | none => ""

def builtinModule : String := "builtins"

def display (h : Hierarchy) (c : ClassId) : String :=
  match h.entry? c with
  | some entry =>
    if entry.module = builtinModule then entry.name else entry.module ++ "." ++ entry.name
  | none => ""

/-! Linearization: the lineages of the bases are merged, and then the bases themselves, so that
every list keeps its order. -/

def nextHead? (lists : List (List ClassId)) : Option ClassId :=
  (lists.filterMap List.head?).find? fun c => lists.all fun l => !(l.drop 1).contains c

def dropHead (c : ClassId) (l : List ClassId) : List ClassId :=
  if l.head? = some c then l.drop 1 else l

/-- Merges lists of at most `fuel` elements in total; none where their orders contradict. -/
def mergeWithin : (fuel : Nat) → List (List ClassId) → Option (List ClassId)
  | 0, lists => if lists.all List.isEmpty then some [] else none
  | fuel + 1, lists =>
    if lists.all List.isEmpty then some []
    else match nextHead? lists with
      | none => none
      | some c => (mergeWithin fuel (lists.map (dropHead c))).map (c :: ·)

def merge (lists : List (List ClassId)) : Option (List ClassId) :=
  mergeWithin lists.flatten.length lists

/-- Adds a class as the last one; none where a base is not there, or where the orders of the bases
contradict each other. -/
def define? (h : Hierarchy) (module name : String) (bases : List ClassId) (abstract : Bool) :
    Option Hierarchy :=
  if bases.all (· < h.classes.length) then
    (merge (bases.map h.lineage ++ [bases])).map fun ancestors =>
      -- What has an abstract base is abstract too.
      ⟨h.classes ++ [⟨module, name, bases, h.classes.length :: ancestors,
        abstract || bases.any h.isAbstract, []⟩]⟩
  else none

def subclasses (h : Hierarchy) (c : ClassId) : List ClassId :=
  (List.range h.classes.length).filter fun d =>
    match h.entry? d with
    | some entry => entry.bases.contains c
    | none => false

/-- The classes whose acceptance an abstract class takes over: those registered with it and its
direct subclasses. -/
def delegates (h : Hierarchy) (a : ClassId) : List ClassId :=
  match h.entry? a with
  | some entry => if entry.abstract then entry.registered ++ h.subclasses a else []
  | none => []

def acceptsWithin (h : Hierarchy) : (depth : Nat) → (ancestor c : ClassId) → Bool
  | 0, ancestor, c => (h.lineage c).contains ancestor
  | depth + 1, ancestor, c =>
    (h.lineage c).contains ancestor ||
      (h.delegates ancestor).any fun delegate => acceptsWithin h depth delegate c

def isSubclass (h : Hierarchy) (c ancestor : ClassId) : Bool :=
  h.acceptsWithin h.classes.length ancestor c

/-- Registers a class with an abstract one. Nothing changes where the acceptance is already there,
nor where it would come back to its start. -/
def register (h : Hierarchy) (abstractClass c : ClassId) : Hierarchy :=
  if h.isSubclass c abstractClass || h.isSubclass abstractClass c then h
  else ⟨h.classes.modify abstractClass fun entry =>
    { entry with registered := entry.registered ++ [c] }⟩

inductive RegistrationFlaw where
  | notAbstract
  | cycle
deriving DecidableEq, Repr

namespace RegistrationFlaw

def code : RegistrationFlaw → String
  | notAbstract => "AttributeError"
  | cycle => "RuntimeError"

def message (name : String) : RegistrationFlaw → String
  | notAbstract => "type object '" ++ name ++ "' has no attribute 'register'"
  | cycle => "Refusing to create an inheritance cycle"

end RegistrationFlaw

def registrationFlaw? (h : Hierarchy) (abstractClass c : ClassId) : Option RegistrationFlaw :=
  if !h.isAbstract abstractClass then some .notAbstract
  else if !h.isSubclass c abstractClass && h.isSubclass abstractClass c then some .cycle
  else none

/-- Hierarchies that come about one class and one registration at a time. -/
inductive Built : Hierarchy → Prop where
  | empty : Built ⟨[]⟩
  | define {h next : Hierarchy} {module name : String} {bases : List ClassId} {abstract : Bool}
      (built : Built h) (defined : h.define? module name bases abstract = some next) : Built next
  | register {h : Hierarchy} (built : Built h) (abstractClass c : ClassId) :
      Built (h.register abstractClass c)

/-- How many steps up the lineage an ancestor is. Classes outside the lineage come after all of
it. -/
def distance (h : Hierarchy) (c ancestor : ClassId) : Nat := (h.lineage c).idxOf ancestor

theorem lineage_define {h next : Hierarchy} {module name : String} {bases : List ClassId}
    {abstract : Bool} (defined : h.define? module name bases abstract = some next) :
    ∃ ancestors, merge (bases.map h.lineage ++ [bases]) = some ancestors ∧
      next.lineage h.classes.length = h.classes.length :: ancestors := by
  simp only [define?, Option.ite_none_right_eq_some, Option.map_eq_some_iff] at defined
  obtain ⟨_, ancestors, merged, rfl⟩ := defined
  exact ⟨ancestors, merged, by simp [lineage, entry?]⟩

theorem Built.define_or {h : Hierarchy} (built : Built h) (module name : String)
    (bases : List ClassId) (abstract : Bool) :
    Built ((h.define? module name bases abstract).getD h) := by
  cases defined : h.define? module name bases abstract with
  | none => exact built
  | some next => exact built.define defined

theorem distance_of_not_mem {h : Hierarchy} {c ancestor : ClassId}
    (outside : ancestor ∉ h.lineage c) : h.distance c ancestor = (h.lineage c).length :=
  List.idxOf_eq_length outside

theorem accepts_of_lineage {h : Hierarchy} {depth : Nat} {ancestor c : ClassId}
    (member : ancestor ∈ h.lineage c) : h.acceptsWithin depth ancestor c = true := by
  cases depth <;> simp [acceptsWithin, member]

end Hierarchy

end HandlerRouting
