import HandlerRouting.RecencyCache.History
import Mathlib.Data.List.Forall2

/-!
Requests to a cache, looked at without one. A key is recent as long as fewer distinct other keys
than the capacity have been asked for since its last request; a request that finds its key recent
should be a hit, and all others should be misses.
-/

namespace HandlerRouting

namespace CacheUse
variable {Key : Type}

def request? : CacheUse Key → Option Key
  | .get key => some key
  | _ => none

def isGetOrLook : CacheUse Key → Bool
  | .remove _ | .clear => false
  | _ => true

def isClear : CacheUse Key → Bool
  | .clear => true
  | _ => false

def requests (uses : List (CacheUse Key)) : List Key := uses.filterMap request?

theorem requests_append (front back : List (CacheUse Key)) :
    requests (front ++ back) = requests front ++ requests back := List.filterMap_append

/-- How often a key was asked for since the cache was last cleared. -/
def getsSinceClear (uses : List (CacheUse Key)) : Nat :=
  (requests (uses.reverse.takeWhile (!isClear ·))).length

end CacheUse

namespace RecencyCache
variable {Key Value ε : Type} [BEq Key]

/-- The cache after uses each of which comes with the loader of its time. -/
def afterEach (c : RecencyCache Key Value)
    (calls : List ((Key → Except ε Value) × CacheUse Key)) : RecencyCache Key Value :=
  calls.foldl (fun c (load, cacheUse) => c.after load cacheUse) c

/-- Every key that is asked for gets a value. -/
def Serves (c : RecencyCache Key Value) :
    List ((Key → Except ε Value) × CacheUse Key) → Prop
  | [] => True
  | (load, cacheUse) :: rest =>
    (∀ key, cacheUse = .get key → ∃ value, (c.get load key).1 = .ok value) ∧
      (c.after load cacheUse).Serves rest

def since (key : Key) (requests : List Key) : List Key :=
  requests.reverse.takeWhile fun other => !(other == key)

/-- A key was asked for, and since then fewer distinct other keys than the capacity. -/
def isRecent (capacity : Nat) (requests : List Key) (key : Key) : Bool :=
  requests.any (· == key) && decide ((distinct (since key requests)).length < capacity)

/-- How many requests come for a recent key, after some earlier ones. -/
def recentHits (capacity : Nat) (earlier : List Key) : List Key → Nat
  | [] => 0
  | key :: rest =>
    (if isRecent capacity earlier key then 1 else 0) + recentHits capacity (earlier ++ [key]) rest

/-- Lists of keys that are equal one by one. A cache keeps a key in the form in which it came in
first, so its keys are known up to equality. -/
def SameKeys (a b : List Key) : Prop := List.Forall₂ (fun x y => (x == y) = true) a b

/-- The present keys stand in the order of their last requests. -/
def InOrder (requests present : List Key) : Prop :=
  ∃ asked, asked.Sublist (byLastRequest requests) ∧ SameKeys present asked

/-- What holds of a cache after any uses of it: its entries are no more than its capacity, no two
of them have the same key, each has the value that the loader gives for its key, and they stand in
the order in which their keys were last asked for. Every get since the last clearing is counted. -/
structure Sound (load : Key → Except ε Value) (uses : List (CacheUse Key))
    (c : RecencyCache Key Value) : Prop where
  bounded : c.size ≤ c.capacity
  apart : c.keys.Pairwise fun a b => (a == b) = false
  loaded : ∀ entry ∈ c.entries, load entry.1 = .ok entry.2
  counted : c.hits + c.misses = CacheUse.getsSinceClear uses
  inOrder : InOrder (CacheUse.requests uses) c.keys

example : isRecent 2 ['a', 'b', 'b', 'a', 'c'] 'a' = true := by decide

example : isRecent 2 ['a', 'b', 'c', 'b'] 'a' = false := by decide

end RecencyCache

end HandlerRouting
