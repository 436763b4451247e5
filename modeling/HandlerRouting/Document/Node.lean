import HandlerRouting.Document.Layout

/-!
Nodes of a document: scalars, lists and records, some of them tagged, some named by an anchor, and
aliases that stand for a named node. They are read from the tokens of the document.
-/

namespace HandlerRouting.Document

inductive Tag where
  | implied
  | named (name : List Char)
deriving DecidableEq, Repr

inductive Node where
  | scalar (tag : Tag) (s : ScalarText)
  | list (tag : Tag) (items : List Node)
  | record (tag : Tag) (fields : List (Node × Node))
  | anchored (name : List Char) (node : Node)
  | reference (name : List Char)
deriving Inhabited

namespace Node

abbrev Handles := List (List Char × List Char)

def formatPrefix : List Char := "tag:yaml.org,2002:".toList

def commonHandles : Handles := [(['!'], ['!']), (['!', '!'], formatPrefix)]

def nothing : Node := scalar .implied { text := [], plain := true }

def tagOf (handles : Handles) (handle : Option (List Char)) (suffix : List Char) :
    Except Fault Tag :=
  let name := match handle with
    | none => some suffix
    | some handle => (handles.lookup handle).map (· ++ suffix)
  match name with
  | none => .error .malformed
  -- A single mark asks for the implied tag.
  | some ['!'] => .ok .implied
  | some name => .ok (.named name)

structure Properties where
  anchor : Option (List Char) := none
  tag : Option Tag := none

def Properties.isEmpty (p : Properties) : Bool := p.anchor.isNone && p.tag.isNone

def readProperties (handles : Handles) : List Token → Except Fault (Properties × List Token)
  | .anchor name :: .tag handle suffix :: rest =>
    (tagOf handles handle suffix).map fun tag => (⟨some name, some tag⟩, rest)
  | .tag handle suffix :: .anchor name :: rest =>
    (tagOf handles handle suffix).map fun tag => (⟨some name, some tag⟩, rest)
  | .anchor name :: rest => .ok (⟨some name, none⟩, rest)
  | .tag handle suffix :: rest =>
    (tagOf handles handle suffix).map fun tag => (⟨none, some tag⟩, rest)
  | tokens => .ok ({}, tokens)

def Properties.name (p : Properties) (node : Node) : Node :=
  match p.anchor with
  | some name => anchored name node
  | none => node

def ofScalar (p : Properties) (s : ScalarText) : Node :=
  match p.tag with
  | some tag => scalar tag s
  | none => scalar (if s.plain then .implied else .named (formatPrefix ++ ['s', 't', 'r'])) s

def endsItem : List Token → Bool
  | .item :: _ | .blockEnd :: _ => true
  | _ => false

def endsEntry : List Token → Bool
  | .key :: _ | .value :: _ | .blockEnd :: _ => true
  | _ => false

def endsFlow (closing : Token) : List Token → Bool
  | token :: _ => token = .comma || token = closing
  | [] => false

mutual

/-- The node that the tokens begin with. In a block it may be a block itself; the items of a list
that belongs to a key may be indented no further than the key. -/
def read (handles : Handles) (block keyed : Bool) :
    (fuel : Nat) → List Token → Except Fault (Node × List Token)
  | 0, _ => .error .malformed
  | _, .reference name :: rest => .ok (reference name, rest)
  | fuel + 1, tokens => do
    let (p, tokens) ← readProperties handles tokens
    let tag := p.tag.getD .implied
    match tokens with
    | .item :: _ =>
      if keyed then
        let (items, rest) ← readLooseItems handles fuel tokens
        return (p.name (list tag items), rest)
      else if p.isEmpty then .error .malformed
      else return (p.name (scalar tag { text := [], plain := true }), tokens)
    | .scalar s :: rest => return (p.name (ofScalar p s), rest)
    | .flowListStart :: rest =>
      let (items, rest) ← readFlowItems handles fuel true rest
      return (p.name (list tag items), rest)
    | .flowRecordStart :: rest =>
      let (fields, rest) ← readFlowFields handles fuel true rest
      return (p.name (record tag fields), rest)
    | .listStart :: rest =>
      if block then
        let (items, rest) ← readItems handles fuel rest
        return (p.name (list tag items), rest)
      else .error .malformed
    | .recordStart :: rest =>
      if block then
        let (fields, rest) ← readFields handles fuel rest
        return (p.name (record tag fields), rest)
      else .error .malformed
    | _ =>
      if p.isEmpty then .error .malformed
      else return (p.name (scalar tag { text := [], plain := true }), tokens)

def readItems (handles : Handles) :
    (fuel : Nat) → List Token → Except Fault (List Node × List Token)
  | 0, _ => .error .malformed
  | fuel + 1, .item :: rest => do
    let (item, rest) ←
      if endsItem rest then .ok (nothing, rest) else read handles true false fuel rest
    let (items, rest) ← readItems handles fuel rest
    return (item :: items, rest)
  | _, .blockEnd :: rest => .ok ([], rest)
  | _, _ => .error .malformed

def readLooseItems (handles : Handles) :
    (fuel : Nat) → List Token → Except Fault (List Node × List Token)
  | 0, _ => .error .malformed
  | fuel + 1, .item :: rest => do
    let (item, rest) ←
      if endsItem rest || endsEntry rest then .ok (nothing, rest)
      else read handles true false fuel rest
    let (items, rest) ← readLooseItems handles fuel rest
    return (item :: items, rest)
  | _, tokens => .ok ([], tokens)

def readFields (handles : Handles) :
    (fuel : Nat) → List Token → Except Fault (List (Node × Node) × List Token)
  | 0, _ => .error .malformed
  | fuel + 1, .key :: rest => do
    let (key, rest) ←
      if endsEntry rest then .ok (nothing, rest) else read handles true true fuel rest
    let (value, rest) ← match rest with
      | .value :: rest =>
        if endsEntry rest then .ok (nothing, rest) else read handles true true fuel rest
      | rest => .ok (nothing, rest)
    let (fields, rest) ← readFields handles fuel rest
    return ((key, value) :: fields, rest)
  | _, .blockEnd :: rest => .ok ([], rest)
  | _, _ => .error .malformed

def readFlowItems (handles : Handles) :
    (fuel : Nat) → (first : Bool) → List Token → Except Fault (List Node × List Token)
  | 0, _, _ => .error .malformed
  | _, _, .flowListEnd :: rest => .ok ([], rest)
  | fuel + 1, first, tokens => do
    let tokens ← if first then .ok tokens else match tokens with
      | .comma :: rest => .ok rest
      | _ => .error .malformed
    match tokens with
    | .flowListEnd :: rest => return ([], rest)
    | .key :: rest =>
      let (entry, rest) ← readFlowEntry handles .flowListEnd fuel rest
      let (items, rest) ← readFlowItems handles fuel false rest
      -- A key and a value make a record of one entry.
      return (record .implied [entry] :: items, rest)
    | tokens =>
      let (item, rest) ← read handles false false fuel tokens
      let (items, rest) ← readFlowItems handles fuel false rest
      return (item :: items, rest)

def readFlowFields (handles : Handles) :
    (fuel : Nat) → (first : Bool) → List Token → Except Fault (List (Node × Node) × List Token)
  | 0, _, _ => .error .malformed
  | _, _, .flowRecordEnd :: rest => .ok ([], rest)
  | fuel + 1, first, tokens => do
    let tokens ← if first then .ok tokens else match tokens with
      | .comma :: rest => .ok rest
      | _ => .error .malformed
    match tokens with
    | .flowRecordEnd :: rest => return ([], rest)
    | .key :: rest =>
      let (entry, rest) ← readFlowEntry handles .flowRecordEnd fuel rest
      let (fields, rest) ← readFlowFields handles fuel false rest
      return (entry :: fields, rest)
    | tokens =>
      let (key, rest) ← read handles false false fuel tokens
      let (fields, rest) ← readFlowFields handles fuel false rest
      -- A node alone is a key whose value is left out.
      return ((key, nothing) :: fields, rest)

def readFlowEntry (handles : Handles) (closing : Token) :
    (fuel : Nat) → List Token → Except Fault ((Node × Node) × List Token)
  | 0, _ => .error .malformed
  | fuel + 1, tokens => do
    let (key, rest) ←
      if tokens.head? = some .value || endsFlow closing tokens then .ok (nothing, tokens)
      else read handles false false fuel tokens
    match rest with
    | .value :: rest =>
      let (value, rest) ←
        if endsFlow closing rest then .ok (nothing, rest)
        else read handles false false fuel rest
      return ((key, value), rest)
    | rest => return ((key, nothing), rest)

end

/-! ## Documents -/

def readDirectives (versioned : Bool) (handles : Handles) :
    List Token → Except Fault (Handles × List Token)
  | .directive d :: rest =>
    match d with
    | .version major =>
      -- Only the first version is known, and it is named once.
      if versioned || major ≠ 1 then .error .malformed else readDirectives true handles rest
    | .tagPrefix handle replaced =>
      if (handles.lookup handle).isSome then .error .malformed
      else readDirectives versioned ((handle, replaced) :: handles) rest
    | .other => readDirectives versioned handles rest
  | tokens => .ok (handles, tokens)

def endsDocument : List Token → Bool
  | [] | .directive _ :: _ | .documentStart :: _ | .documentEnd :: _ => true
  | _ => false

def skipEnds (tokens : List Token) : List Token := tokens.dropWhile (· = .documentEnd)

def ofTokens (tokens : List Token) : Except Fault (Option Node) := do
  -- Of four readings inside each other one at least takes a token.
  let fuel := 4 * tokens.length + 4
  let (node, rest) ← match tokens with
    | [] => .ok (none, [])
    | .directive _ :: _ | .documentStart :: _ => do
      let (handles, rest) ← readDirectives false [] tokens
      match rest with
      | .documentStart :: rest =>
        if endsDocument rest then .ok (some nothing, rest)
        else do
          let (node, rest) ← read (handles ++ commonHandles) true false fuel rest
          .ok (some node, rest)
      | _ => .error .malformed
    | _ => do
      let (node, rest) ← read commonHandles true false fuel tokens
      .ok (some node, rest)
  if (skipEnds rest).isEmpty then return node else .error .malformed

mutual

def anchorsAfter (known : List (List Char)) : Node → Option (List (List Char))
  | scalar .. => some known
  | list _ items => anchorsAfterAll known items
  | record _ fields => anchorsAfterFields known fields
  | anchored name node =>
    if known.contains name then none else anchorsAfter (name :: known) node
  | reference name => if known.contains name then some known else none

def anchorsAfterAll (known : List (List Char)) : List Node → Option (List (List Char))
  | [] => some known
  | node :: rest =>
    match anchorsAfter known node with
    | some known => anchorsAfterAll known rest
    | none => none

def anchorsAfterFields (known : List (List Char)) : List (Node × Node) → Option (List (List Char))
  | [] => some known
  | (key, value) :: rest =>
    match anchorsAfter known key with
    | some known =>
      match anchorsAfter known value with
      | some known => anchorsAfterFields known rest
      | none => none
    | none => none

end

def ofText (s : List Char) : Except Fault (Option Node) := do
  match ← ofTokens (← Layout.tokensOf s) with
  | none => return none
  | some node => if (anchorsAfter [] node).isSome then return some node else .error .malformed

end Node

end HandlerRouting.Document
