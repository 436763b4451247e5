import HandlerRouting.Distinct
import HandlerRouting.RecencyCache

/-!
Histories of a cache: what one use after another makes of it, and which keys it should have kept
when all that matters is the order in which keys were asked for.
-/

namespace HandlerRouting

/-- One use of a cache. The last kind only looks at it: at its keys, its size or its counters. -/
inductive CacheUse (Key : Type) where
  | get (key : Key)
  | contains (key : Key)
  | remove (key : Key)
  | clear
  | inspect
deriving DecidableEq, Repr

namespace RecencyCache
variable {Key Value ε : Type} [BEq Key]

def after (load : Key → Except ε Value) (c : RecencyCache Key Value) :
    CacheUse Key → RecencyCache Key Value
  | .get key => (c.get load key).2
  | .remove key => (c.remove key).2
  | .clear => c.clear
  | .contains _ | .inspect => c

def afterAll (load : Key → Except ε Value) (c : RecencyCache Key Value)
    (uses : List (CacheUse Key)) : RecencyCache Key Value := uses.foldl (after load) c

/-- The distinct keys of a list of requests, in order of their last request. -/
def byLastRequest (requests : List Key) : List Key := (distinct requests.reverse).reverse

/-- The keys requested last, as many as the capacity allows. -/
def recentKeys (capacity : Nat) (requests : List Key) : List Key :=
  (byLastRequest requests).drop ((byLastRequest requests).length - capacity)

theorem recent_keys_length_le (capacity : Nat) (requests : List Key) :
    (recentKeys capacity requests).length ≤ capacity := by
  simp only [recentKeys, List.length_drop]
  omega

example : recentKeys 2 ['a', 'b', 'a', 'c'] = ['a', 'c'] := by decide

theorem capacity_after (load : Key → Except ε Value) (c : RecencyCache Key Value)
    (cacheUse : CacheUse Key) : (c.after load cacheUse).capacity = c.capacity := by
  cases cacheUse with
  | get key =>
    simp only [after, get_eq, hit?]
    cases c.entry? key with
    | some entry => rfl
    | none => cases load key <;> rfl
  | contains key => rfl
  | remove key => rfl
  | clear => rfl
  | inspect => rfl

end RecencyCache

end HandlerRouting
