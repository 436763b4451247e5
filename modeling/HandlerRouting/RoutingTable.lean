import HandlerRouting.Defect
import HandlerRouting.Distinct
import HandlerRouting.Entries
import HandlerRouting.MediaType.Reader

/-!
Routing tables: which handler stands on each route. A table is built from a list of handlers. Every
handler claims the routes that pair its exception classes with its media types; a route claimed by
two functions, and a handler that cannot say what it claims, are defects. The table is a
`DispatchTable`, and `build` is `DispatchTableBuilder.build`: `exceptionClasses`,
`coveredMediaTypes`, `routes` and `claim` are its `exception_types`, `media_types`, `mapping_keys`
and `_add_mapping`.
-/

namespace HandlerRouting

/-- Routes in the order in which they were claimed, each with its handler. -/
structure RoutingTable where
  entries : List (Route × Handler)

/-- Why a table cannot be built: a defect of the declarations, or a media type whose charset holds
the one character that no charset can be looked up with. -/
inductive BuildFailure where
  | defect (defect : Defect)
  | nulInCharset

namespace Handler

/-- The exception classes that a handler covers: those that it declares, all of which have to be
exception classes, or else those among its parameter types. -/
def exceptionClasses (h : Hierarchy) (a : Handler) : Except Defect (List ClassId) :=
  if a.declaresExceptions then
    let others := a.exceptions.filter fun t => (t.exceptionClass? h).isNone
    if others.isEmpty then .ok (distinct (a.exceptions.filterMap (TypeExpr.exceptionClass? h)))
    else
      let reason := "not exception classes: " ++ ", ".intercalate (others.map (TypeExpr.shown h))
      .error (.noExceptionTypes a.name (some reason))
  else
    let found := distinct (a.parameterTypes.filterMap (TypeExpr.exceptionClass? h))
    if found.isEmpty then .error (.noExceptionTypes a.name none) else .ok found

def readMediaType (name : String) (given : Datum) : Except BuildFailure MediaType :=
  let invalid := fun flaw : MediaType.Flaw =>
    BuildFailure.defect (.invalidMediaType given (some flaw.reason) (some name))
  match given with
  | .text s =>
    match MediaType.parse s with
    | .ok m => .ok m
    | .error (.flawed _ flaw) => .error (invalid flaw)
    | .error .nulInCharset => .error .nulInCharset
  | _ => .error (invalid .empty)

def readMediaTypes (name : String) : List Datum → Except BuildFailure (List MediaType)
  | [] => .ok []
  | given :: rest =>
    match readMediaType name given with
    | .error failure => .error failure
    | .ok m =>
      match readMediaTypes name rest with
      | .error failure => .error failure
      | .ok others => .ok (m :: others)

def coveredMediaTypes (a : Handler) : Except BuildFailure (List MediaType) :=
  if a.declaresMediaTypes then (readMediaTypes a.name a.mediaTypes).map distinct
  else .ok [MediaType.all]

def pairRoutes (classes : List ClassId) (media : List MediaType) : List Route :=
  classes.flatMap fun c => media.map fun m => ⟨c, m⟩

/-- The routes that a handler claims, by exception class and then by media type. -/
def routes (h : Hierarchy) (a : Handler) : Except BuildFailure (List Route) :=
  match a.exceptionClasses h with
  | .error defect => .error (.defect defect)
  | .ok classes => (a.coveredMediaTypes).map (pairRoutes classes)

end Handler

namespace RoutingTable

def empty : RoutingTable := ⟨[]⟩

def size (t : RoutingTable) : Nat := t.entries.length

def shown (t : RoutingTable) : String := "DispatchTable(" ++ toString t.size ++ " mappings)"

def routes (t : RoutingTable) : List Route := t.entries.map Prod.fst

def find? (t : RoutingTable) (route : Route) : Option Handler := t.entries.lookup route

def has (t : RoutingTable) (route : Route) : Bool := t.routes.any (· == route)

def handlers (t : RoutingTable) : List Handler :=
  t.entries.foldl (fun kept (_, a) => if kept.any (a.sameFunction ·) then kept else kept ++ [a]) []

def handledClasses (t : RoutingTable) : List ClassId := distinct (t.routes.map Route.exception)

def same (t u : RoutingTable) : Bool :=
  t.size == u.size && t.entries.all fun (route, a) =>
    match u.find? route with
    | some b => a == b
    | none => false

def claim (t : RoutingTable) (a : Handler) (route : Route) : Except Defect RoutingTable :=
  match t.find? route with
  | none => .ok ⟨t.entries ++ [(route, a)]⟩
  | some existing =>
    -- One function may claim a route twice, two functions may not.
    if existing.sameFunction a then .ok t
    else .error (.ambiguous route existing.name a.name)

abbrev Progress := RoutingTable × Option BuildFailure

def claimRoutes (t : RoutingTable) (a : Handler) : List Route → Progress
  | [] => (t, none)
  | route :: rest =>
    match t.claim a route with
    | .ok next => claimRoutes next a rest
    | .error defect => (t, some (.defect defect))

def claimAll (h : Hierarchy) (t : RoutingTable) : List Handler → Progress
  | [] => (t, none)
  | a :: rest =>
    match a.routes h with
    | .error failure => (t, some failure)
    | .ok routes =>
      match claimRoutes t a routes with
      | (next, none) => claimAll h next rest
      | stopped => stopped

/-- The table of a list of handlers, unless one of them stops it. -/
def build (h : Hierarchy) (handlers : List Handler) : Except BuildFailure RoutingTable :=
  match claimAll h empty handlers with
  | (t, none) => .ok t
  | (_, some failure) => .error failure

theorem claim_extends {t next : RoutingTable} {a : Handler} {route : Route}
    (claimed : t.claim a route = .ok next) : t.entries <+: next.entries := by
  unfold claim at claimed
  split at claimed
  · cases claimed
    exact List.prefix_append ..
  · split at claimed
    · cases claimed
      exact List.prefix_rfl
    · cases claimed

end RoutingTable

end HandlerRouting
