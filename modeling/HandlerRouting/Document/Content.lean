import HandlerRouting.Document.ScalarValue
import HandlerRouting.Entries

/-!
Contents of nodes: the data that they stand for, and the faults in them. Data are made from the
outside in: what stands in a list or a record is looked at only after all that stands beside it, so
of two faults that of the outer level counts.
-/

namespace HandlerRouting.Document

abbrev Found := Option (Nat × Fault)

namespace Found

def onLevel (level : Nat) (fault : Fault) : Found := some (level, fault)

def raised (found : Found) : Found := found.map fun (level, fault) => (level + 1, fault)

def or (first second : Found) : Found :=
  match first, second with
  | some (i, fault), some (j, other) => if j < i then some (j, other) else some (i, fault)
  | some found, none => some found
  | none, found => found

def first (all : List Found) : Found := all.foldl or none

end Found

inductive Form (α : Type) where
  | scalar (kind : Kind) (s : ScalarText)
  | list (items : List α)
  | record (written : List (α × α)) (fields : Option (List (α × α)))

inductive Content where
  | mk (datum : Datum) (found : Found) (form : Form Content)

namespace Content

def datum : Content → Datum
  | mk datum _ _ => datum

def found : Content → Found
  | mk _ found _ => found

def form : Content → Form Content
  | mk _ _ form => form

def isMerge (c : Content) : Bool :=
  match c.form with
  | .scalar .merge _ => true
  | _ => false

def isDefault (c : Content) : Bool :=
  match c.form with
  | .scalar .default _ => true
  | _ => false

def fieldsOf? (c : Content) : Option (List (Content × Content)) :=
  match c.form with
  | .record _ fields => fields
  | _ => none

def merged? (c : Content) : Option (List (Content × Content)) :=
  match c.form with
  | .scalar .. => none
  | .list items => (items.mapM fieldsOf?).map fun all => all.reverse.flatten
  | .record _ fields => fields

def asKey (c : Content) : Content :=
  match c.form with
  | .scalar .default s => mk (ScalarValue.textOf s) none (.scalar .text s)
  | _ => c

def withMerged (written : List (Content × Content)) : Option (List (Content × Content)) :=
  let merges := written.filter fun (key, _) => key.isMerge
  let own := written.filter fun (key, _) => !key.isMerge
  let taken : Option (List (List (Content × Content))) :=
    merges.mapM fun (field : Content × Content) => merged? field.2
  taken.map fun taken => taken.flatten ++ own.map fun (key, value) => (key.asKey, value)

def scalar? (c : Content) : Option ScalarText :=
  match c.form with
  | .scalar _ s => some s
  | _ => none

def defaultOf (written : List (Content × Content)) : Option ScalarText :=
  (written.find? fun (key, _) => key.isDefault).bind fun (_, value) => value.scalar?

/-! ## Nodes by kind -/

def failed (level : Nat) (empty : Datum) (form : Form Content) : Content :=
  mk empty (.onLevel level .malformed) form

def ofText (kind : Kind) (given : Option ScalarText) (form : Form Content) : Content :=
  match given with
  | none => failed 0 .null form
  | some s =>
    match ScalarValue.ofScalar kind s with
    | .ok datum => mk datum none form
    | .error fault => mk .null (.onLevel 0 fault) form

def entryFound (entry : Content × Content) : List Found :=
  let (key, value) := entry
  [key.found.raised, if key.datum.isKey then none else .onLevel 1 .malformed, value.found.raised]

def ofEntries (shape : List (Datum × Datum) → Datum) (fields : Option (List (Content × Content)))
    (form : Form Content) : Content :=
  match fields with
  | none => failed 1 (shape []) form
  | some fields =>
    let entries := Entries.ofPairs (fields.map fun (key, value) => (key.datum, value.datum))
    mk (shape entries) (.first (fields.flatMap entryFound)) form

def pairOf (c : Content) : Datum × Found :=
  match c.form with
  | .record [(key, value)] _ =>
    (.list [key.datum, value.datum], .first [key.found.raised, value.found.raised])
  | _ => (.null, .onLevel 1 .malformed)

def keySet (entries : List (Datum × Datum)) : Datum := .set (Entries.keys entries)

def ofKind (kind : Option Kind) (form : Form Content) : Content :=
  match kind, form with
  | none, form => failed 0 .null form
  | some .list, .list items =>
    mk (.list (items.map datum)) (.first (items.map fun item => item.found.raised)) form
  -- Lists and records that are none turn out one level later than scalars.
  | some .list, form => failed 1 (.list []) form
  | some .pairs, .list items =>
    let pairs := items.map pairOf
    mk (.list (pairs.map Prod.fst)) (.first (pairs.map Prod.snd)) form
  | some .pairs, form => failed 1 (.list []) form
  | some .record, .record _ fields => ofEntries .record fields form
  | some .record, form => failed 1 (.record []) form
  | some .set, .record _ fields => ofEntries keySet fields form
  | some .set, form => failed 1 (.set []) form
  | some kind, .scalar _ s => ofText kind (some s) form
  | some kind, .record written _ => ofText kind (defaultOf written) form
  | some kind, .list _ => ofText kind none form

/-! ## Nodes -/

abbrev Known := List (List Char × Content)

def unknown : Content := mk (.record []) none (.record [] (some []))

mutual

def ofNode (known : Known) : Node → Content
  | .scalar tag s =>
    let kind := Kind.ofTag? (Kind.ofPlain s.text) tag
    ofKind kind (.scalar (kind.getD .text) s)
  | .list tag items => ofKind (Kind.ofTag? .list tag) (.list (ofNodes known items))
  | .record tag fields =>
    let written := ofFields known fields
    ofKind (Kind.ofTag? .record tag) (.record written (withMerged written))
  | .anchored _ node => ofNode known node
  | .reference name => (known.lookup name).getD unknown

def ofNodes (known : Known) : List Node → List Content
  | [] => []
  | node :: rest => ofNode known node :: ofNodes known rest

def ofFields (known : Known) : List (Node × Node) → List (Content × Content)
  | [] => []
  | (key, value) :: rest => (ofNode known key, ofNode known value) :: ofFields known rest

end

mutual

def anchoredIn : Node → List (List Char × Node)
  | .scalar .. | .reference _ => []
  | .list _ items => anchoredInAll items
  | .record _ fields => anchoredInFields fields
  | .anchored name node => anchoredIn node ++ [(name, node)]

def anchoredInAll : List Node → List (List Char × Node)
  | [] => []
  | node :: rest => anchoredIn node ++ anchoredInAll rest

def anchoredInFields : List (Node × Node) → List (List Char × Node)
  | [] => []
  | (key, value) :: rest => anchoredIn key ++ anchoredIn value ++ anchoredInFields rest

end

def learn (anchored : List (List Char × Node)) (known : Known) : Known :=
  anchored.foldl (fun known (name, node) => (name, ofNode known node) :: known) known

def read (s : List Char) : Except Fault Datum := do
  match ← Node.ofText s with
  | none => return .null
  | some node =>
    -- In the second round the aliases inside the nodes that they stand for are known.
    let anchored := anchoredIn node
    let content := ofNode (learn anchored (learn anchored [])) node
    match content.found with
    | some (_, fault) => .error fault
    | none => return content.datum

end Content

end HandlerRouting.Document
