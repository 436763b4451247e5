import HandlerRouting.Event
import HandlerRouting.RoutingTable

/-!
What is reported while a table is built: every route as it is claimed, and then the finished table
or the defect that stopped the building.
-/

namespace HandlerRouting.RoutingTable

def mappedEvent (h : Hierarchy) (entry : Route × Handler) : Event :=
  ⟨.debug, "Mapped exception handler",
    [("key", entry.1.text h), ("function", entry.2.name)]⟩

def builtEvent (handlers : List Handler) (t : RoutingTable) : Event :=
  ⟨.info, "Dispatch table built",
    [("handlers", toString handlers.length), ("mappings", toString t.size)]⟩

def defectEvent (h : Hierarchy) (defect : Defect) : Event :=
  ⟨.error, "Invalid exception handler declarations: " ++ defect.message h,
    Event.fieldsOf (defect.metadata h)⟩

def buildEvents (h : Hierarchy) (handlers : List Handler) : List Event :=
  let (t, stopped) := claimAll h empty handlers
  t.entries.map (mappedEvent h) ++
    match stopped with
    | none => [builtEvent handlers t]
    | some (.defect defect) => [defectEvent h defect]
    | some .nulInCharset => []

end HandlerRouting.RoutingTable
