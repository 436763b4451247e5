import HandlerRouting.MediaType.Reader
import HandlerRouting.Settings.Whole

/-!
Settings of a router, read from data. Fields are read leniently: a whole number may come as a text,
a truth value as a word. All that is wrong with the data is reported together, field by field. The
record is `ResolverConfig`. The rules by which its fields are read are those of the library that
validates it, so that `from_dict` can be run.
-/

namespace HandlerRouting

def defaultCapacity : Nat := 24

structure Settings where
  cacheCapacity : Nat := defaultCapacity
  defaultMediaType : String := "*/*"
  defaultMedia : MediaType := .all
  followContext : Bool := false

namespace Settings

structure Valid (s : Settings) : Prop where
  capacity : 0 < s.cacheCapacity
  media : MediaType.parse s.defaultMediaType = .ok s.defaultMedia

def capacityOf (given : Datum) : Except FieldFlaw Nat :=
  match Whole.ofDatum given with
  | .error flaw => .error flaw
  | .ok n => if 0 < n then .ok n.toNat else .error .notPositive

def mediaOfText (s : String) : Except FieldFlaw (String × MediaType) :=
  match MediaType.parse s with
  | .ok m => .ok (s, m)
  | .error refusal => .error (.refused refusal.message)

def mediaOf : Datum → Except FieldFlaw (String × MediaType)
  | .text s => mediaOfText s
  | .brokenText _ => .error .textBroken
  | .bytes values =>
    match String.fromUTF8? ⟨values.toArray⟩ with
    | some s => mediaOfText s
    | none => .error .textBroken
  | _ => .error .textWanted

def yesWords : List String := ["1", "on", "t", "true", "y", "yes"]

def noWords : List String := ["0", "off", "f", "false", "n", "no"]

def truthOfText (s : String) : Except FieldFlaw Bool :=
  let word := String.ofList (s.toList.map Char.toLower)
  if yesWords.contains word then .ok true
  else if noWords.contains word then .ok false
  else .error .truthUnreadable

def truthOfWhole (n : Int) : Except FieldFlaw Bool :=
  if !FieldName.fitsWord n then .error .truthWanted
  else if n = 0 then .ok false
  else if n = 1 then .ok true
  else .error .truthUnreadable

def truthOf : Datum → Except FieldFlaw Bool
  | .bool value => .ok value
  | .int value => truthOfWhole value
  | .real x =>
    match Whole.ofReal x with
    | .ok n => truthOfWhole n
    | .error _ => .error .truthWanted
  | .text s => truthOfText s
  | .brokenText _ => .error .textBroken
  | .bytes values =>
    match String.fromUTF8? ⟨values.toArray⟩ with
    | some s => truthOfText s
    | none => .error .truthUnreadable
  | _ => .error .truthWanted

def capacityField : String := "cache_capacity"

def mediaField : String := "default_media_type"

def followField : String := "follow_context"

def readField {α : Type} (fields : List (Datum × Datum)) (name : String) (default : α)
    (read : Datum → Except FieldFlaw α) : Except FieldReport α :=
  match Datum.field? fields name with
  | none => .ok default
  | some given =>
    match read given with
    | .ok value => .ok value
    | .error flaw => .error ⟨some (.named name), flaw⟩

def reportOf {α : Type} : Except FieldReport α → List FieldReport
  | .ok _ => []
  | .error report => [report]

def knownFields : List String := [capacityField, mediaField, followField]

def unknownKey (key : Datum) : Option FieldReport :=
  match key with
  | .text name => if name ∈ knownFields then none else some ⟨some (.named name), .unknownField⟩
  | other => some ⟨some (.ofKey other), .keyNotText⟩

def ofFields (fields : List (Datum × Datum)) : Except (List FieldReport) Settings :=
  let capacity := readField fields capacityField defaultCapacity capacityOf
  let media := readField fields mediaField ("*/*", .all) mediaOf
  let follow := readField fields followField false truthOf
  let unknown := fields.filterMap fun (key, _) => unknownKey key
  match capacity, media, follow, unknown with
  | .ok capacity, .ok (text, media), .ok follow, [] => .ok ⟨capacity, text, media, follow⟩
  -- In the order of the fields here, unknown fields last.
  | _, _, _, _ => .error (reportOf capacity ++ reportOf media ++ reportOf follow ++ unknown)

def sectionName : String := "exception_dispatch"

inductive Failure where
  | reports (reports : List FieldReport)
  | notRecord (given : Datum)

def notRecordMessage (given : Datum) : String :=
  "'" ++ given.kind ++ "' object has no attribute 'get'"

/-- Settings from data: from its section of settings, or from all of it. -/
def ofDatum (data : Datum) : Except Failure Settings :=
  match data with
  | .null => .ok {}
  | .record fields =>
    let part := (Datum.field? fields sectionName).getD data
    -- An empty section gives the defaults.
    if part.isNothing then .ok {}
    else match part with
      | .record fields =>
        match ofFields fields with
        | .ok settings => .ok settings
        | .error reports => .error (.reports reports)
      | _ => .error (.reports [⟨none, .recordWanted "ResolverConfig"⟩])
  | other => .error (.notRecord other)

def assignReport? (name : String) : Option FieldReport :=
  if name.toList.head? = some '_' then none else some ⟨some (.named name), .frozen⟩

end Settings

end HandlerRouting
