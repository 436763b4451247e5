import HandlerRouting.Chain
import HandlerRouting.MediaType.Matching
import HandlerRouting.Precedence.Sort
import HandlerRouting.RecencyCache
import HandlerRouting.RoutingTable.Report
import HandlerRouting.Settings

/-!
Routers: which handler should process an exception for a media type. Candidates are the routes of a
table whose class accepts the exception's class and whose media type overlaps the one asked for; the
first in precedence wins. Lookups are kept in a cache, also those that found nothing. For a raised
exception the exceptions of its chain are tried in turn. A router is an `ExceptionHandlerResolver`:
`resolveClass` and `resolveRaised` are `resolve_by_type` and `resolve_by_exception`, and
`bestHandler` is `_find_best_match`.
-/

namespace HandlerRouting

structure Router where
  hierarchy : Hierarchy
  name : String
  settings : Settings
  table : RoutingTable
  cache : RecencyCache Route (Option Handler)

namespace RoutingTable

def candidates (t : RoutingTable) (h : Hierarchy) (asked : Route) : List Route :=
  t.routes.filter fun route =>
    h.isSubclass asked.exception route.exception && route.media.overlaps asked.media

def bestRoute (t : RoutingTable) (h : Hierarchy) (asked : Route) : Option Route :=
  (Sort.sort (Precedence.before h asked.exception) (t.candidates h asked)).head?

/-- The handler for an asked route, looked up without a cache. -/
def bestHandler (t : RoutingTable) (h : Hierarchy) (asked : Route) : Option Handler :=
  (t.bestRoute h asked).bind t.find?

end RoutingTable

/-- The media type that a lookup asks for: none, one that is read already, or data to be read. -/
inductive MediaRequest where
  | unset
  | media (m : MediaType)
  | given (value : Datum)

inductive LookupRefusal where
  | notExceptionClass (display : String)
  | notException (display : String)
  | media (refusal : MediaType.Refusal)
deriving DecidableEq, Repr

def LookupRefusal.message : LookupRefusal → String
  | notExceptionClass display => "Expected an exception class, got " ++ display
  | notException display => "Expected an exception instance, got " ++ display
  | media refusal => refusal.message

/-- What a lookup came to, the router after it, and what was reported on the way. -/
structure Lookup (α : Type) where
  outcome : α
  router : Router
  events : List Event

namespace Router

def defaultName : String := "anonymous"

def make (hierarchy : Hierarchy) (name : String) (settings : Settings) (table : RoutingTable) :
    Router :=
  ⟨hierarchy, if name.isEmpty then defaultName else name, settings, table,
    { capacity := settings.cacheCapacity }⟩

def readyEvent (r : Router) : Event :=
  ⟨.info, "Exception handler resolver ready",
    [("container", r.name), ("mappings", toString r.table.size),
      ("cache_capacity", toString r.settings.cacheCapacity)]⟩

def build (hierarchy : Hierarchy) (name : String) (settings : Settings) (handlers : List Handler) :
    Except BuildFailure Router :=
  (RoutingTable.build hierarchy handlers).map (make hierarchy name settings)

def buildEvents (hierarchy : Hierarchy) (name : String) (settings : Settings)
    (handlers : List Handler) : List Event :=
  RoutingTable.buildEvents hierarchy handlers ++
    match build hierarchy name settings handlers with
    | .ok r => [r.readyEvent]
    | .error _ => []

def shown (r : Router) : String :=
  "ExceptionHandlerResolver(" ++ Text.quoted r.name ++ ", mappings=" ++ toString r.table.size ++ ")"

def computedEvent (r : Router) (asked : Route) : Event :=
  ⟨.trace, "Computed exception handler candidates",
    [("container", r.name), ("exception_type", r.hierarchy.qualifiedName asked.exception),
      ("media_type", asked.media.text),
      ("candidates", toString (r.table.candidates r.hierarchy asked).length)]⟩

def lookUp (r : Router) (asked : Route) : Lookup (Option Handler) :=
  match r.cache.hit? asked with
  | some (found, cache) => ⟨found, { r with cache }, []⟩
  | none =>
    let found := r.table.bestHandler r.hierarchy asked
    ⟨found, { r with cache := r.cache.countMiss.store asked found }, [r.computedEvent asked]⟩

def requested (r : Router) : MediaRequest → Except MediaType.Refusal MediaType
  | .unset => .ok r.settings.defaultMedia
  | .media m => .ok m
  | .given (.text s) => MediaType.parse s
  -- Data that is no text is refused like an empty text.
  | .given value => .error (.flawed value.plain .empty)

def resolveClass (r : Router) (wanted : TypeExpr) (media : MediaRequest) :
    Lookup (Except LookupRefusal (Option Handler)) :=
  match wanted.exceptionClass? r.hierarchy with
  | none => ⟨.error (.notExceptionClass (wanted.shown r.hierarchy)), r, []⟩
  | some c =>
    match r.requested media with
    | .error refusal => ⟨.error (.media refusal), r, []⟩
    | .ok m =>
      let found := r.lookUp ⟨c, m⟩
      ⟨.ok found.outcome, found.router, found.events⟩

def tryingEvent (r : Router) (c : ClassId) : Event :=
  ⟨.trace, "No handler at this level, trying cause",
    [("container", r.name), ("exception_type", r.hierarchy.qualifiedName c)]⟩

def missedEvent (r : Router) (c : ClassId) (m : MediaType) : Event :=
  ⟨.debug, "No exception handler found",
    [("container", r.name), ("exception_type", r.hierarchy.qualifiedName c),
      ("media_type", m.text)]⟩

/-- Tries the exceptions of a chain in turn, up to the first that has a handler. -/
def walk (g : Raisings) (m : MediaType) (r : Router) : List Nat → Lookup (Option Handler)
  | [] => ⟨none, r, []⟩
  | x :: rest =>
    let found := r.lookUp ⟨g.classOf x, m⟩
    match found.outcome with
    | some a => ⟨some a, found.router, found.events⟩
    | none =>
      -- An exception that was tried before is reported too, though the chain ends there.
      let trying := (g.next r.settings.followContext x).toList.map fun y =>
        r.tryingEvent (g.classOf y)
      let later := walk g m found.router rest
      ⟨later.outcome, later.router, found.events ++ trying ++ later.events⟩

/-- The handler for a raised exception, or else for the first exception of its chain that has
one. -/
def resolveRaised (r : Router) (g : Raisings) (start : Nat) (media : MediaRequest) :
    Lookup (Except LookupRefusal (Option Handler)) :=
  match r.requested media with
  | .error refusal => ⟨.error (.media refusal), r, []⟩
  | .ok m =>
    let found := walk g m r (g.chain r.settings.followContext start)
    let missed := match found.outcome with
      | some _ => []
      | none => [r.missedEvent (g.classOf start) m]
    ⟨.ok found.outcome, found.router, found.events ++ missed⟩

def refuseValue (r : Router) (value : TypeExpr) : Lookup (Except LookupRefusal (Option Handler)) :=
  ⟨.error (.notException (value.shown r.hierarchy)), r, []⟩

end Router

end HandlerRouting
