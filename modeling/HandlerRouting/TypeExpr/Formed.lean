import HandlerRouting.Signature

/-!
Type expressions as they come to be. Unions are only made by forming them, so their members are
distinct and none of them is a union. The unions that are remembered were formed from their parts,
and names are only found to stand for what can be a part of a union.
-/

namespace HandlerRouting

namespace TypeExpr

/-- Type expressions are nested in lists. In an induction, all items of such a list are known. -/
@[elab_as_elim]
theorem nested_induction {motive : TypeExpr → Prop} (cls : ∀ id, motive (cls id))
    (none : motive none) (text : ∀ s, motive (text s)) (int : ∀ n, motive (int n))
    (object : ∀ identity kind display, motive (object identity kind display))
    (generic : ∀ origin args, (∀ t ∈ args, motive t) → motive (generic origin args))
    (forward : ∀ identity name, motive (forward identity name))
    (union : ∀ barred parts, (∀ t ∈ parts, motive t) → motive (union barred parts)) :
    ∀ t, motive t
  | .cls id => cls id
  | .none => none
  | .text s => text s
  | .int n => int n
  | .object identity kind display => object identity kind display
  | .generic origin args => generic origin args fun t _ =>
      nested_induction cls none text int object generic forward union t
  | .forward identity name => forward identity name
  | .union barred parts => union barred parts fun t _ =>
      nested_induction cls none text int object generic forward union t

def isMember : TypeExpr → Bool
  | none | text _ | union .. => false
  | _ => true

def isText : TypeExpr → Bool
  | text _ => true
  | _ => false

/-- All unions in a type expression are as forming leaves them. -/
inductive Formed : TypeExpr → Prop where
  | cls (id : ClassId) : Formed (cls id)
  | none : Formed none
  | text (s : String) : Formed (text s)
  | int (n : Int) : Formed (int n)
  | object (identity : Nat) (kind display : String) : Formed (object identity kind display)
  | forward (identity : Option Nat) (name : String) : Formed (forward identity name)
  | generic {origin : ClassId} {args : List TypeExpr} (inside : ∀ t ∈ args, Formed t) :
      Formed (generic origin args)
  | union {barred : Bool} {parts : List TypeExpr} (members : ∀ t ∈ parts, t.isMember = true)
      (inside : ∀ t ∈ parts, Formed t) (distinct : parts.Pairwise fun a b => (a == b) = false) :
      Formed (union barred parts)

/-- As forming leaves it, and ready to be joined with others. -/
structure Joinable (t : TypeExpr) : Prop where
  formed : t.Formed
  members : ∀ u ∈ t.flat, u.isMember = true

mutual

/-- Nothing is left to be looked up: there are no names, and what has arguments may have them. -/
def settled (h : Hierarchy) : TypeExpr → Bool
  | text _ | forward .. => false
  | generic origin args => takesArguments h origin && settledAll h args
  | union _ parts => settledAll h parts
  | _ => true

def settledAll (h : Hierarchy) : List TypeExpr → Bool
  | [] => true
  | t :: rest => settled h t && settledAll h rest

end

/-- An annotation that means what it says: nothing in it is looked up, and it is not the value that
stands for its class. -/
def StandsForItself (h : Hierarchy) (t : TypeExpr) : Prop := t ≠ none ∧ t.settled h = true

end TypeExpr

inductive Expression.Formed : Expression → Prop where
  | value {t : TypeExpr} (formed : t.Formed) : Formed (value t)
  | listed {parts : List Expression} (inside : ∀ e ∈ parts, Formed e) : Formed (listed parts)
  | optional {part : Expression} (inside : Formed part) : Formed (optional part)
  | bar {left right : Expression} (first : Formed left) (second : Formed right) :
      Formed (bar left right)
  | made {make : List TypeExpr → Option TypeExpr} {parts : List Expression}
      (makes : ∀ ts t, (∀ part ∈ ts, part.Formed) → make ts = some t → t.Formed)
      (inside : ∀ e ∈ parts, Formed e) : Formed (made make parts)

def Scope.Formed (scope : Scope) : Prop := ∀ name e, scope.read name = some e → e.Formed

theorem Scope.of_classes_formed (classes : List (String × ClassId)) :
    (Scope.ofClasses classes).Formed := by
  intro name e reads
  unfold Scope.ofClasses at reads
  dsimp only at reads
  split at reads
  · obtain rfl := Option.some.inj reads
    exact .value (.cls _)
  · split at reads
    · obtain rfl := Option.some.inj reads
      exact .value .none
    · cases reads

namespace TypeMemory

/-- What is remembered came about by forming unions and by looking names up. -/
structure Sound (m : TypeMemory) : Prop where
  formed : ∀ entry ∈ m.unions, ∀ part ∈ entry.1, part.Formed
  united : ∀ entry ∈ m.unions, ∃ before,
    entry.2 = TypeExpr.joined false (TypeExpr.asMembers before entry.1).1
  known : ∀ meaning ∈ m.meanings, meaning.2.Joinable

theorem sound_empty : Sound {} := ⟨by simp, by simp, by simp⟩

/-- All that is remembered is remembered later. -/
structure Within (m n : TypeMemory) : Prop where
  unions : ∀ parts t, m.find? parts = some t → n.find? parts = some t
  meanings : ∀ identity t, m.meanings.lookup identity = some t →
    n.meanings.lookup identity = some t

variable {m n k : TypeMemory}

theorem Sound.of_same (sound : m.Sound) (unions : n.unions = m.unions)
    (meanings : n.meanings = m.meanings) : n.Sound where
  formed := by
    rw [unions]
    exact sound.formed
  united := by
    rw [unions]
    exact sound.united
  known := by
    rw [meanings]
    exact sound.known

theorem Within.of_same (unions : n.unions = m.unions) (meanings : n.meanings = m.meanings) :
    m.Within n where
  unions parts t found := by
    rw [find?, unions]
    exact found
  meanings identity t known := by
    rw [meanings]
    exact known

theorem Within.refl (m : TypeMemory) : m.Within m := ⟨fun _ _ => id, fun _ _ => id⟩

theorem Within.trans (first : m.Within n) (second : n.Within k) : m.Within k where
  unions parts t found := second.unions parts t (first.unions parts t found)
  meanings identity t known := second.meanings identity t (first.meanings identity t known)

end TypeMemory

end HandlerRouting
