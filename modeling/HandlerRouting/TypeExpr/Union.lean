import HandlerRouting.TypeExpr

/-!
Unions of type expressions. A union of the same parts is the same union, so the unions formed so far
are remembered; a part that is a union counts for all unions with its members. What a name stands
for is remembered as well, once it has been looked up.
-/

namespace HandlerRouting

/-- Unions with the parts that they were formed from, what names stand for, and how many names there
are. -/
structure TypeMemory where
  unions : List (List TypeExpr × TypeExpr) := []
  meanings : List (Nat × TypeExpr) := []
  names : Nat := 0

namespace TypeMemory

def find? (m : TypeMemory) (parts : List TypeExpr) : Option TypeExpr :=
  (m.unions.find? fun (formed, _) => TypeExpr.sameAll formed parts).map Prod.snd

def remember (m : TypeMemory) (parts : List TypeExpr) (t : TypeExpr) : TypeMemory :=
  { m with unions := (parts, t) :: m.unions }

theorem find_remember (m : TypeMemory) (parts : List TypeExpr) (t : TypeExpr) :
    (m.remember parts t).find? parts = some t := by
  simp [find?, remember, TypeExpr.same_all_refl]

end TypeMemory

namespace TypeExpr

/-- What a type expression is among the members of a union: no value counts as its class, a text as
a name to be looked up. -/
def asMember (m : TypeMemory) : TypeExpr → TypeExpr × TypeMemory
  | none => (cls Hierarchy.noneClass, m)
  | text name => (forward (some m.names) name, { m with names := m.names + 1 })
  | t => (t, m)

def asMembers (m : TypeMemory) : List TypeExpr → List TypeExpr × TypeMemory
  | [] => ([], m)
  | part :: rest =>
    let (member, m) := asMember m part
    let (members, m) := asMembers m rest
    (member :: members, m)

/-- Members of unions among the members count singly, and repeated ones once. One member alone is no
union. -/
def joined (barred : Bool) (members : List TypeExpr) : TypeExpr :=
  match distinct (members.flatMap flat) with
  | [only] => only
  | several => union barred several

def unite (parts : List TypeExpr) (m : TypeMemory) : TypeExpr × TypeMemory :=
  match m.find? parts with
  | some t => (t, m)
  | Option.none =>
    let (members, m) := asMembers m parts
    let t := joined false members
    (t, m.remember parts t)

def optional (t : TypeExpr) (m : TypeMemory) : TypeExpr × TypeMemory :=
  let (member, m) := asMember m t
  unite [member, cls Hierarchy.noneClass] m

/-! ## Bars -/

def kind (h : Hierarchy) : TypeExpr → String
  | cls c => if h.isAbstract c then "ABCMeta" else "type"
  | none => "NoneType"
  | text _ => "str"
  | int _ => "int"
  | object _ kind _ => kind
  | generic .. => "types.GenericAlias"
  | forward .. => "ForwardRef"
  | union barred _ => if barred then "types.UnionType" else "typing.Union"

inductive UnionFlaw where
  | noParts
  | noOperands
  | unjoinable (left right : String)
deriving DecidableEq, Repr

def UnionFlaw.message : UnionFlaw → String
  | noParts => "Cannot take a Union of no types."
  | noOperands => "reduce() of empty iterable with no initial value"
  | unjoinable left right =>
    "unsupported operand type(s) for |: '" ++ left ++ "' and '" ++ right ++ "'"

def isListing : TypeExpr → Bool
  | union false _ | forward .. => true
  | _ => false

def takesBar : TypeExpr → Bool
  | cls _ | none | generic .. | union true _ => true
  | _ => false

def isNone : TypeExpr → Bool
  | none => true
  | _ => false

def memberOfBar : TypeExpr → TypeExpr
  | none => cls Hierarchy.noneClass
  | t => t

/-- A bar between whole numbers joins their bits; below zero, a number has those that the one before
its opposite lacks. -/
def joinBits : Int → Int → Int
  | .ofNat a, .ofNat b => .ofNat (a ||| b)
  | .ofNat a, .negSucc b => .negSucc (b - (a &&& b))
  | .negSucc a, .ofNat b => .negSucc (a - (a &&& b))
  | .negSucc a, .negSucc b => .negSucc (a &&& b)

abbrev Forming := StateT TypeMemory (Except UnionFlaw)

def bar (h : Hierarchy) (left right : TypeExpr) : Forming TypeExpr :=
  if left.isListing || right.isListing then fun m => .ok (unite [left, right] m)
  else if left.takesBar && right.takesBar && !(left.isNone && right.isNone) then
    return joined true [left.memberOfBar, right.memberOfBar]
  else match left, right with
    | int a, int b => return int (joinBits a b)
    | _, _ => throw (.unjoinable (left.kind h) (right.kind h))

def bars (h : Hierarchy) : List TypeExpr → Forming TypeExpr
  | [] => throw .noOperands
  | first :: rest => rest.foldlM (bar h) first

example : joinBits (-3) 5 = -3 ∧ joinBits (-4) 1 = -3 := by decide

def listed (parts : List TypeExpr) : Forming TypeExpr :=
  if parts.isEmpty then throw .noParts else fun m => .ok (unite parts m)

end TypeExpr

end HandlerRouting
