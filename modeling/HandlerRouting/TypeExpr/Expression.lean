import HandlerRouting.TypeExpr.Search

/-!
Expressions: what an annotation that is written as a text reads as. Evaluating one forms the unions
that are written in it, and these are remembered like any others.
-/

namespace HandlerRouting

inductive Expression where
  /-- Whatever a name stands for: a class, a union, a generic, another text, or no value. -/
  | value (t : TypeExpr)
  | listed (parts : List Expression)
  | optional (part : Expression)
  | bar (left right : Expression)
  /-- Anything else that is made of other expressions, like a list of some type. -/
  | made (make : List TypeExpr → Option TypeExpr) (parts : List Expression)

namespace Expression
variable (h : Hierarchy)

mutual

def form : Expression → Search TypeExpr
  | value t => pure t
  | listed parts => do Search.forming (TypeExpr.listed (← formAll parts))
  | optional part => do
    let t ← form part
    Search.forming fun m => .ok (t.optional m)
  | bar left right => do
    let first ← form left
    let second ← form right
    Search.forming (TypeExpr.bar h first second)
  | made make parts => do Search.ofOption (make (← formAll parts))

def formAll : List Expression → Search (List TypeExpr)
  | [] => pure []
  | e :: rest => do
    let first ← form e
    let others ← formAll rest
    return first :: others

end

end Expression

end HandlerRouting
