/-!
A cache that keeps the entries used last. Entries stand in order of their last use; when there are
more than the capacity allows, those unused for longest go. Looking a key up and storing its value
are two steps, because a loader may use the cache in between. This is a list model for
`ConcurrentLruCache`; `fetch` is its `get` with a loader that may use the cache, `get` with one that
does not.
-/

namespace HandlerRouting

structure RecencyCache (Key Value : Type) where
  capacity : Nat
  /-- Least recently used first. -/
  entries : List (Key × Value) := []
  hits : Nat := 0
  misses : Nat := 0

namespace RecencyCache
variable {Key Value ε : Type} [BEq Key]

def make? (capacity : Int) : Option (RecencyCache Key Value) :=
  if 0 < capacity then some { capacity := capacity.toNat } else none

def capacityMessage (capacity : Int) : String :=
  "Cache capacity must be positive, got " ++ toString capacity

def size (c : RecencyCache Key Value) : Nat := c.entries.length

def keys (c : RecencyCache Key Value) : List Key := c.entries.map Prod.fst

def contains (c : RecencyCache Key Value) (key : Key) : Bool := c.keys.any (· == key)

def others (key : Key) (entries : List (Key × Value)) : List (Key × Value) :=
  entries.filter fun entry => !(entry.1 == key)

def entry? (c : RecencyCache Key Value) (key : Key) : Option (Key × Value) :=
  c.entries.find? fun entry => entry.1 == key

/-- A present key's value. Its entry becomes the one used last, and a hit is counted. -/
def hit? (c : RecencyCache Key Value) (key : Key) :
    Option (Value × RecencyCache Key Value) :=
  (c.entry? key).map fun entry =>
    (entry.2, { c with entries := others key c.entries ++ [entry], hits := c.hits + 1 })

def countMiss (c : RecencyCache Key Value) : RecencyCache Key Value :=
  { c with misses := c.misses + 1 }

def trimmed (capacity : Nat) (entries : List (Key × Value)) : List (Key × Value) :=
  entries.drop (entries.length - capacity)

/-- Stores a value as the one used last. -/
def store (c : RecencyCache Key Value) (key : Key) (value : Value) : RecencyCache Key Value :=
  -- A key that is present keeps the form it has.
  let kept := match c.entry? key with
    | some entry => entry.1
    | none => key
  { c with entries := trimmed c.capacity (others key c.entries ++ [(kept, value)]) }

/-- The value of a key: the one that is kept, or else the one that the loader gives for it, which is
then kept. The loader runs in a monad that holds the cache. -/
def fetch {m : Type → Type} [Monad m] [MonadStateOf (RecencyCache Key Value) m]
    (load : Key → m Value) (key : Key) : m Value := do
  let c ← getThe (RecencyCache Key Value)
  match c.hit? key with
  | some (value, next) =>
    set next
    return value
  | none =>
    set c.countMiss
    let value ← load key
    modifyThe (RecencyCache Key Value) fun c => c.store key value
    return value

/-- Fetching through a loader that leaves the cache alone. -/
def get (load : Key → Except ε Value) (key : Key) (c : RecencyCache Key Value) :
    Except ε Value × RecencyCache Key Value :=
  let given : Key → ExceptT ε (StateM (RecencyCache Key Value)) Value :=
    fun key => ExceptT.mk (pure (load key))
  ((fetch given key).run.run c).run

theorem get_eq (load : Key → Except ε Value) (key : Key) (c : RecencyCache Key Value) :
    c.get load key =
      match c.hit? key with
      | some (value, next) => (.ok value, next)
      | none =>
        match load key with
        | .ok value => (.ok value, c.countMiss.store key value)
        -- Nothing is kept, and still the miss is counted.
        | .error failure => (.error failure, c.countMiss) := by
  have opened : (getThe (RecencyCache Key Value) :
      ExceptT ε (StateM (RecencyCache Key Value)) _).run.run c = pure (.ok c, c) := rfl
  simp only [get, fetch, ExceptT.run_bind, StateT.run_bind]
  rw [opened, pure_bind]
  dsimp only
  cases c.hit? key with
  | some found => rfl
  | none => cases load key <;> rfl

def remove (c : RecencyCache Key Value) (key : Key) : Bool × RecencyCache Key Value :=
  (c.contains key, { c with entries := others key c.entries })

def clear (c : RecencyCache Key Value) : RecencyCache Key Value := { capacity := c.capacity }

def shown (c : RecencyCache Key Value) : String :=
  "ConcurrentLruCache(capacity=" ++ toString c.capacity ++ ", size=" ++ toString c.size ++ ")"

theorem get_of_failure {load : Key → Except ε Value} {key : Key} {c : RecencyCache Key Value}
    {failure : ε} (absent : c.hit? key = none) (fails : load key = .error failure) :
    c.get load key = (.error failure, c.countMiss) := by
  simp [get_eq, absent, fails]

end RecencyCache

end HandlerRouting
