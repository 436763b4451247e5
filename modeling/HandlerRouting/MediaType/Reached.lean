import HandlerRouting.MediaType.Obtainable
import HandlerRouting.MediaType.Specificity

/-!
Media types that are reached by making, reading, editing and stripping them in any order, lists
among what is read. The quality is read anew whenever it is asked for, from the text that the media
type keeps.
-/

namespace HandlerRouting.MediaType

inductive Reached : MediaType → Prop where
  | made {type subtype : List Char} {parameters : List (List Char × List Char)} {m : MediaType}
      (read : make type subtype parameters = .ok m) : Reached m
  | parsed {text : String} {m : MediaType} (read : parse text = .ok m) : Reached m
  | listed {text : String} {ms : List MediaType} {m : MediaType} (read : parseList text = .ok ms)
      (among : m ∈ ms) : Reached m
  | edited {m n : MediaType} {added : List (List Char × List Char)} (given : Reached m)
      (read : m.withParameters added = .ok n) : Reached n
  | stripped {m : MediaType} (given : Reached m) : Reached m.withoutParameters

def readQuality? (m : MediaType) : Option Numeral :=
  qualityOf? ((m.parameters.lookup qualityName).getD ['1'])

end HandlerRouting.MediaType
