import HandlerRouting.Distinct
import HandlerRouting.Hierarchy.Builtin
import HandlerRouting.Text.Quoted

/-!
Type expressions: what stands where a type is expected, in a list of exceptions or as the
annotation of a parameter. Only some of them are classes; a name stands for a class where it can
be looked up; a union stands for its members.
-/

namespace HandlerRouting

inductive TypeExpr where
  | cls (id : ClassId)
  | none
  | text (s : String)
  | int (n : Int)
  | object (identity : Nat) (kind : String) (display : String)
  | generic (origin : ClassId) (args : List TypeExpr)
  /-- A name inside a union, to be looked up later. Names that are written in different places are
  told apart by their identities; what a lookup leaves of a name has none. -/
  | forward (identity : Option Nat) (name : String)
  /-- A union, written with bars between its members or as a list of them. -/
  | union (barred : Bool) (members : List TypeExpr)
deriving Inhabited

namespace TypeExpr

open Text

mutual

/-- Unions are the same when they have the same members, however they are written. Their members
are distinct. -/
def same : TypeExpr → TypeExpr → Bool
  | cls a, cls b => a == b
  | none, none => true
  | text a, text b => a == b
  | int a, int b => a == b
  | object a _ _, object b _ _ => a == b
  | generic a as, generic b bs => a == b && sameAll as bs
  | forward _ a, forward _ b => a == b
  | union _ as, union _ bs => as.length == bs.length && allIn as bs
  | _, _ => false

def sameAll : List TypeExpr → List TypeExpr → Bool
  | [], [] => true
  | a :: as, b :: bs => same a b && sameAll as bs
  | _, _ => false

def allIn : List TypeExpr → List TypeExpr → Bool
  | [], _ => true
  | a :: rest, bs => bs.any (fun b => same a b) && allIn rest bs

end

instance : BEq TypeExpr := ⟨same⟩

mutual

theorem same_refl (t : TypeExpr) : same t t = true := by
  cases t with
  | generic origin args => simp [same, same_all_refl args]
  | union barred parts => simp [same, all_in_of_subset parts parts fun _ member => member]
  | _ => simp [same]

theorem same_all_refl (ts : List TypeExpr) : sameAll ts ts = true := by
  cases ts with
  | nil => simp [sameAll]
  | cons t rest => simp [sameAll, same_refl t, same_all_refl rest]

theorem all_in_of_subset (as bs : List TypeExpr) (inside : ∀ a ∈ as, a ∈ bs) :
    allIn as bs = true := by
  cases as with
  | nil => simp [allIn]
  | cons a rest =>
    have found : bs.any (fun b => same a b) = true :=
      List.any_eq_true.mpr ⟨a, inside a (by simp), same_refl a⟩
    simp only [allIn, found, Bool.true_and]
    exact all_in_of_subset rest bs fun b member => inside b (by simp [member])

end

instance : ReflBEq TypeExpr := ⟨same_refl _⟩

def flat : TypeExpr → List TypeExpr
  | union _ members => members
  | t => [t]

mutual

/-- The members of a union, of unions inside it too, and nothing for the class of no value. -/
def members : TypeExpr → List TypeExpr
  | union _ parts => membersOfAll parts
  | cls id => if id = Hierarchy.noneClass then [] else [cls id]
  | t => [t]

def membersOfAll : List TypeExpr → List TypeExpr
  | [] => []
  | t :: rest => members t ++ membersOfAll rest

end

variable (h : Hierarchy)

mutual

def shownInside (barred : Bool) : TypeExpr → String
  | cls id => if barred && id == Hierarchy.noneClass then "None" else h.display id
  | none => "None"
  | text s => quoted s
  | int n => toString n
  | object _ _ display => display
  | generic origin args =>
    h.display origin ++ "[" ++
      (if args.isEmpty then "()" else ", ".intercalate (shownAll false args)) ++ "]"
  | forward _ name => "ForwardRef(" ++ quoted name ++ ")"
  | union true parts => " | ".intercalate (shownAll true parts)
  | union false parts =>
    match parts with
    | [cls a, other] =>
      if a = Hierarchy.noneClass then "typing.Optional[" ++ shownInside false other ++ "]"
      else if other == cls Hierarchy.noneClass then "typing.Optional[" ++ h.display a ++ "]"
      else "typing.Union[" ++ h.display a ++ ", " ++ shownInside false other ++ "]"
    | [other, cls b] =>
      if b = Hierarchy.noneClass then "typing.Optional[" ++ shownInside false other ++ "]"
      else "typing.Union[" ++ shownInside false other ++ ", " ++ h.display b ++ "]"
    | parts => "typing.Union[" ++ ", ".intercalate (shownAll false parts) ++ "]"

def shownAll (barred : Bool) : List TypeExpr → List String
  | [] => []
  | t :: rest => shownInside barred t :: shownAll barred rest

end

def classShown (c : ClassId) : String := "<class '" ++ h.display c ++ "'>"

def shown : TypeExpr → String
  | cls id => classShown h id
  | t => shownInside h false t

def exceptionClass? : TypeExpr → Option ClassId
  | cls id => if h.isExceptionClass id then some id else Option.none
  | _ => Option.none

end TypeExpr

end HandlerRouting
