import HandlerRouting.Hierarchy.Builtin
import HandlerRouting.Text.Quoted

/-!
Exceptions of a class: what they may be raised with, what they keep of it, and how they show.
-/

namespace HandlerRouting.Hierarchy

def systemError : ClassId := 26

def groupRoot : ClassId := 13

example : builtinPlace "OSError" = systemError ∧ builtinPlace "BaseExceptionGroup" = groupRoot := by
  decide +kernel

variable (h : Hierarchy)

def builtinAncestor? (c : ClassId) : Option ClassId :=
  (h.lineage c).find? (· < builtinBases.length)

def keptArguments (c : ClassId) (args : List String) : List String :=
  let system := (h.builtinAncestor? c).any fun ancestor => (h.lineage ancestor).contains systemError
  if system && 3 ≤ args.length && args.length ≤ 5 then args.take 2 else args

def lastPart (name : String) : String :=
  String.ofList (name.toList.reverse.takeWhile (· ≠ '.')).reverse

def exceptionShown (c : ClassId) (name : String) (args : List String) : String :=
  lastPart name ++ "(" ++ ", ".intercalate ((h.keptArguments c args).map Text.quoted) ++ ")"

inductive GroupFlaw where
  | count (given : Nat)
  | noExceptions
  | noException
deriving DecidableEq, Repr

def GroupFlaw.code : GroupFlaw → String
  | count _ => "TypeError"
  | noExceptions | noException => "ValueError"

def GroupFlaw.message : GroupFlaw → String
  | count given =>
    "BaseExceptionGroup.__new__() takes exactly 2 arguments (" ++ toString given ++ " given)"
  | noExceptions => "second argument (exceptions) must be a non-empty sequence"
  | noException => "Item 0 of second argument (exceptions) is not an exception"

def groupFlaw? (c : ClassId) (args : List String) : Option GroupFlaw :=
  if !(h.lineage c).contains groupRoot then none
  else match args with
    | [_, members] => some (if members.isEmpty then .noExceptions else .noException)
    | _ => some (.count args.length)

end HandlerRouting.Hierarchy
