import HandlerRouting.MediaType.CharsetNames

/-!
Charsets. A charset name is looked up in a normal form, which keeps ASCII letters, digits and points
and has one underscore for each run of other characters between them. `isKnownCharset` is what
`_check_parameter` asks of a charset.
-/

namespace HandlerRouting.MediaType

def isCharsetNameChar (c : Char) : Bool := c.isAlphanum || c = '.'

def normalizeAfter (pending : Bool) : List Char → List Char
  | [] => []
  | c :: rest =>
    if isCharsetNameChar c then
      if pending then '_' :: c.toLower :: normalizeAfter false rest
      else c.toLower :: normalizeAfter false rest
    else normalizeAfter true rest

def normalizeCharset (name : List Char) : List Char :=
  normalizeAfter false (name.dropWhile (!isCharsetNameChar ·))

def knownAs (names : List String) (name : List Char) : Bool :=
  names.any fun known => known.toList == name

/-- A name with a point in it is only ever another name, written with the points or with
underscores in their place. -/
def isKnownCharset (name : List Char) : Bool :=
  let normal := normalizeCharset name
  if normal.contains '.' then
    knownAs charsetAliases normal ||
      knownAs charsetAliases (normal.map fun c => if c = '.' then '_' else c)
  else knownAs charsetAliases normal || knownAs charsetTitles normal

example :
    normalizeCharset [' ', 'U', 'T', 'F', '-', ' ', '8', '-'] = ['u', 't', 'f', '_', '8'] := by
  decide

end HandlerRouting.MediaType
