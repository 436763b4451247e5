import HandlerRouting.TypeExpr.Union

/-!
Looking things up among types. A search can come to nothing; what it has learned until then stays
remembered all the same.
-/

namespace HandlerRouting

/-- What is found, if anything, and what is remembered after it. -/
def Search (α : Type) := TypeMemory → Option α × TypeMemory

namespace Search
variable {α : Type}

instance : Monad Search where
  pure a := fun m => (some a, m)
  bind x f := fun m =>
    match x m with
    | (some a, after) => f a after
    | (none, after) => (none, after)

def nothing : Search α := fun m => (none, m)

def ofOption : Option α → Search α
  | some a => pure a
  | none => nothing

def forming (f : TypeExpr.Forming α) : Search α := fun m =>
  match f m with
  | .ok (a, after) => (some a, after)
  | .error _ => (none, m)

def keep (identity : Nat) (t : TypeExpr) : Search TypeExpr := fun m =>
  match m.meanings.lookup identity with
  | some first => (some first, m)
  | none => (some t, { m with meanings := (identity, t) :: m.meanings })

/-- What a name stands for, from the first time on that it is looked up. -/
def once (identity : Option Nat) (x : Search TypeExpr) : Search TypeExpr :=
  match identity with
  | none => x
  | some identity => fun m =>
    match m.meanings.lookup identity with
    | some t => (some t, m)
    | none => (x >>= keep identity) m

end Search

end HandlerRouting
