import HandlerRouting.Hierarchy
import HandlerRouting.MediaType.Written

/-!
Routes: an exception class together with a media type. A handler claims routes, and a lookup asks
for one. A route is a `MappingKey` whose type is a class, and `text` is what it shows as.
-/

namespace HandlerRouting

structure Route where
  exception : ClassId
  media : MediaType

namespace Route

/-- Routes are the same when their classes are identical and their media types are the same. -/
instance : BEq Route where
  beq a b := a.exception == b.exception && a.media == b.media

theorem beq_iff (a b : Route) :
    (a == b) = true ↔ a.exception = b.exception ∧ (a.media == b.media) = true := by
  show (a.exception == b.exception && a.media == b.media) = true ↔ _
  simp

instance : EquivBEq Route where
  rfl := by simp [beq_iff]
  symm := by
    intro a b same
    rw [beq_iff] at *
    exact ⟨same.1.symm, BEq.symm same.2⟩
  trans := by
    intro a b c first second
    rw [beq_iff] at *
    exact ⟨first.1.trans second.1, BEq.trans first.2 second.2⟩

def text (h : Hierarchy) (route : Route) : String :=
  h.display route.exception ++ " @ " ++ route.media.text

end Route

end HandlerRouting
