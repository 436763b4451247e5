import HandlerRouting.MediaType.Specificity
import HandlerRouting.Route.Key

/-!
Precedence of candidates: of two routes that both match an exception, the one whose class is nearer
comes first; for equally near classes the more specific media type does. All else is tied.
`distance` is `hierarchy_distance`, and `compare` is `CandidateComparator.compare`.
-/

namespace HandlerRouting.Precedence

variable (h : Hierarchy) (raised : ClassId)

def distance (route : Route) : Nat := h.distance raised route.exception

/-- `lt` when the first of two media types at their distances comes first. -/
def compareAt (near far : Nat) (a b : MediaType) : Ordering :=
  if near < far then .lt
  else if far < near then .gt
  else if a == b then .eq
  else if a.moreSpecific b then .lt
  else if b.moreSpecific a then .gt
  else .eq

def compare (a b : Route) : Ordering :=
  compareAt (distance h raised a) (distance h raised b) a.media b.media

/-- Keys compare as routes do, by their places in a lineage. -/
def compareKeys (lineage : List ClassId) (a b : Key) : Ordering :=
  compareAt (a.type.placeIn lineage) (b.type.placeIn lineage) a.media b.media

def before (a b : Route) : Bool := compare h raised a b == .lt

theorem before_of_nearer {a b : Route}
    (nearer : distance h raised a < distance h raised b) : before h raised a b = true := by
  simp [before, compare, compareAt, nearer]

theorem not_before_of_nearer {a b : Route}
    (nearer : distance h raised a < distance h raised b) : before h raised b a = false := by
  simp [before, compare, compareAt, nearer, Nat.not_lt_of_lt nearer]

end HandlerRouting.Precedence
