import HandlerRouting.Proofs.Router.Caching
import Mathlib.Data.List.Perm.Subperm

/-!
The walk along a chain of exceptions. The chain holds every exception that the links lead to, each
once, so walking it comes to the first of them that has a handler, however the links run.
-/

namespace HandlerRouting

namespace Raisings
variable {g : Raisings} {followContext : Bool}

theorem nth_succ (x links : Nat) :
    g.nth followContext x (links + 1) =
      (g.next followContext x).bind fun y => g.nth followContext y links := by
  induction links generalizing x with
  | zero => cases linked : g.next followContext x <;> simp [nth, linked]
  | succ links ih =>
    rw [nth, ih]
    cases g.next followContext x with
    | none => rfl
    | some y => rfl

theorem chain_from_nth (fuel : Nat) (visited : List Nat) (start : Nat) {place x : Nat}
    (listed : (g.chainFrom followContext fuel visited start)[place]? = some x) :
    g.nth followContext start place = some x := by
  induction fuel generalizing visited start place with
  | zero => simp [chainFrom] at listed
  | succ fuel ih =>
    simp only [chainFrom] at listed
    split at listed
    · simp at listed
    · cases place with
      | zero =>
        split at listed
        · simpa [nth] using listed
        · simpa [nth] using listed
      | succ place =>
        rw [nth_succ]
        split at listed
        · rename_i y linked
          simpa [linked] using ih (start :: visited) y (by simpa using listed)
        · simp at listed

theorem mem_of_full {visited : List Nat} {size x : Nat} (distinct : visited.Nodup)
    (inside : ∀ y ∈ visited, y < size) (full : size ≤ visited.length) (there : x < size) :
    x ∈ visited := by
  have within : visited ⊆ List.range size := fun y member => List.mem_range.mpr (inside y member)
  have all := (distinct.subperm within).perm_of_length_le (by simpa using full)
  exact all.symm.subset (List.mem_range.mpr there)

/-- What is visited already, when a chain is to go on from an exception. -/
structure Reserve (g : Raisings) (fuel : Nat) (visited : List Nat) : Prop where
  distinct : visited.Nodup
  inside : ∀ y ∈ visited, y < g.length
  enough : g.length ≤ fuel + visited.length

theorem Reserve.visit {fuel x : Nat} {visited : List Nat} (reserve : g.Reserve (fuel + 1) visited)
    (there : x < g.length) (fresh : x ∉ visited) : g.Reserve fuel (x :: visited) where
  distinct := List.nodup_cons.mpr ⟨fresh, reserve.distinct⟩
  inside := by
    intro y member
    rcases List.mem_cons.mp member with rfl | older
    · exact there
    · exact reserve.inside y older
  enough := by
    have enough := reserve.enough
    simp only [List.length_cons]
    omega

theorem chain_from_start {fuel x : Nat} {visited : List Nat} (reserve : g.Reserve fuel visited)
    (there : x < g.length) : x ∈ visited ∨ x ∈ g.chainFrom followContext fuel visited x := by
  cases fuel with
  | zero =>
    -- Every exception has been visited by then.
    have full := reserve.enough
    rw [Nat.zero_add] at full
    exact Or.inl (mem_of_full reserve.distinct reserve.inside full there)
  | succ fuel =>
    by_cases met : x ∈ visited
    · exact Or.inl met
    · have fresh : ¬ (visited.contains x || decide (g.length ≤ x)) = true := by simp [met, there]
      right
      rw [chainFrom, if_neg fresh]
      split <;> simp

theorem chain_from_closed (closed : g.Closed) {fuel start : Nat} {visited : List Nat}
    (reserve : g.Reserve fuel visited) {x y : Nat}
    (member : x ∈ g.chainFrom followContext fuel visited start)
    (linked : g.next followContext x = some y) :
    y ∈ visited ∨ y ∈ g.chainFrom followContext fuel visited start := by
  induction fuel generalizing visited start with
  | zero => simp [chainFrom] at member
  | succ fuel ih =>
    simp only [chainFrom] at member ⊢
    split at member
    · simp at member
    · rename_i fresh
      rw [if_neg fresh]
      simp only [Bool.or_eq_true, List.contains_iff_mem, decide_eq_true_eq, not_or,
        Nat.not_le] at fresh
      have next := reserve.visit fresh.2 fresh.1
      split at member
      · rename_i z first
        -- Either `x` is the start, or the rest of the chain has it.
        have later : y ∈ start :: visited ∨
            y ∈ g.chainFrom followContext fuel (start :: visited) z := by
          rcases List.mem_cons.mp member with rfl | behind
          · obtain rfl := Option.some.inj (first.symm.trans linked)
            exact chain_from_start next (next_lt closed linked)
          · exact ih next behind
        rcases later with again | behind
        · rcases List.mem_cons.mp again with rfl | older
          · exact Or.inr (List.mem_cons_self ..)
          · exact Or.inl older
        · exact Or.inr (List.mem_cons_of_mem _ behind)
      · rename_i ends
        obtain rfl := List.mem_singleton.mp member
        rw [ends] at linked
        cases linked

theorem nth_mem_chain (closed : g.Closed) {start : Nat} (there : start < g.length)
    {links x : Nat} (reached : g.nth followContext start links = some x) :
    x ∈ g.chain followContext start := by
  have reserve : g.Reserve g.length [] := ⟨List.nodup_nil, by simp, by simp⟩
  induction links generalizing x with
  | zero =>
    obtain rfl := Option.some.inj reached
    exact (chain_from_start reserve there).resolve_left (by simp)
  | succ links ih =>
    obtain ⟨y, before, linked⟩ := Option.bind_eq_some_iff.mp reached
    exact (chain_from_closed closed reserve (ih before) linked).resolve_left (by simp)

theorem chain_lt {start x : Nat} (closed : g.Closed) (there : start < g.length)
    (member : x ∈ g.chain followContext start) : x < g.length := by
  obtain ⟨place, listed⟩ := List.getElem?_of_mem member
  cases place with
  | zero =>
    obtain rfl := Option.some.inj (chain_from_nth _ _ _ listed)
    exact there
  | succ links =>
    obtain ⟨y, _, linked⟩ := Option.bind_eq_some_iff.mp (chain_from_nth _ _ _ listed)
    exact next_lt closed linked

theorem class_of_mem {x : Nat} (there : x < g.length) : ∃ raised ∈ g, g.classOf x = raised.cls :=
  ⟨g[x], List.getElem_mem there, by simp [classOf, there]⟩

end Raisings

namespace Router
variable {r later : Router} {g : Raisings} {m : MediaType}

def tried (r : Router) (g : Raisings) (m : MediaType) : List Nat → List Nat
  | [] => []
  | x :: rest =>
    match r.given ⟨g.classOf x, m⟩ with
    | some _ => [x]
    | none => x :: tried r g m rest

theorem tried_prefix (r : Router) (g : Raisings) (m : MediaType) (chain : List Nat) :
    r.tried g m chain <+: chain := by
  induction chain with
  | nil => exact List.prefix_rfl
  | cons x rest ih =>
    simp only [tried]
    split
    · exact ⟨rest, rfl⟩
    · exact (List.prefix_cons_inj x).mpr ih

theorem tried_of_found {before after : List Nat} {x : Nat} {a : Handler}
    (none : ∀ y ∈ before, r.given ⟨g.classOf y, m⟩ = none)
    (found : r.given ⟨g.classOf x, m⟩ = some a) :
    r.tried g m (before ++ x :: after) = before ++ [x] := by
  induction before with
  | nil => simp [tried, found]
  | cons y rest ih =>
    obtain ⟨first, others⟩ := List.forall_mem_cons.mp none
    simp [tried, first, ih others]

/-- A walk looks up what it tries, in turn, and nothing else. -/
theorem walk_router (follows : r.Follows later) (chain : List Nat) :
    (walk g m later chain).router = (r.tried g m chain).foldl
      (fun before x => (before.lookUp ⟨g.classOf x, m⟩).router) later := by
  induction chain generalizing later with
  | nil => rfl
  | cons x rest ih =>
    obtain ⟨answer, next⟩ := look_up_follows follows ⟨g.classOf x, m⟩
    -- The lookup in the cache and the table agree on whether the walk stops here.
    simp only [walk, tried, ← answer]
    cases found : (later.lookUp ⟨g.classOf x, m⟩).outcome with
    | some a => rfl
    | none => exact ih next

theorem resolve_raised_walk (follows : r.Follows later) (g : Raisings) (start : Nat)
    {media : MediaRequest} (read : r.requested media = .ok m) :
    let chain := g.chain r.settings.followContext start
    let found := later.resolveRaised g start media
    found.outcome = .ok (chain.findSome? fun x => r.given ⟨g.classOf x, m⟩) ∧
      found.router = (r.tried g m chain).foldl
        (fun before x => (before.lookUp ⟨g.classOf x, m⟩).router) later := by
  intro chain found
  have stillRead : later.requested media = .ok m := (requested_follows follows media).trans read
  have sameSettings := follows.settings
  simp only [found, resolveRaised, stillRead, sameSettings]
  exact ⟨congrArg _ (walk_follows follows g m chain).1, walk_router follows chain⟩

/-- A raised exception is resolved as the class of the first exception is that its links lead to
and that can be resolved. No exception is looked up twice on the way, and none is missed. -/
theorem resolve_raised_first (h : Hierarchy) (name : String) (settings : Settings)
    (table : RoutingTable) (earlier : List Query) {g : Raisings} {start : Nat}
    {media : MediaRequest} {m : MediaType} (closed : g.Closed)
    (exceptional : ∀ raised ∈ g, h.isExceptionClass raised.cls = true) (there : start < g.length)
    (read : (make h name settings table).requested media = .ok m) :
    let made := make h name settings table
    let nth := g.nth settings.followContext start
    let alone := fun x => (made.resolveClass (.cls (g.classOf x)) (.media m)).outcome
    let found := (made.after earlier).resolveRaised g start media
    ∃ tried : List Nat, tried.Nodup ∧
      (∀ place x, tried[place]? = some x → nth place = some x) ∧
      found.router = tried.foldl
        (fun before x => (before.lookUp ⟨g.classOf x, m⟩).router) (made.after earlier) ∧
      ((∃ before x a, tried = before ++ [x] ∧ (∀ y ∈ before, alone y = .ok none) ∧
          alone x = .ok (some a) ∧ found.outcome = .ok (some a)) ∨
        ((∀ links x, nth links = some x → alone x = .ok none) ∧ found.outcome = .ok none)) := by
  intro made nth alone found
  have fresh : made.Follows made := make_follows h name settings table
  let chain := g.chain settings.followContext start
  obtain ⟨outcome, router⟩ := resolve_raised_walk (after_follows fresh earlier) g start read
  have aloneGiven : ∀ x ∈ chain, alone x = .ok (made.given ⟨g.classOf x, m⟩) := by
    intro x member
    obtain ⟨raised, ofGraph, own⟩ := Raisings.class_of_mem (Raisings.chain_lt closed there member)
    exact resolve_class_follows fresh (by rw [own]; exact exceptional raised ofGraph) rfl
  have tries := made.tried_prefix g m chain
  refine ⟨made.tried g m chain, (g.chain_nodup _ _).sublist tries.sublist, ?_, router, ?_⟩
  · intro place x listed
    obtain ⟨inside, rfl⟩ := List.getElem?_eq_some_iff.mp listed
    exact Raisings.chain_from_nth _ _ _ (List.prefix_iff_getElem?.mp tries place inside)
  · cases first : chain.findSome? fun x => made.given ⟨g.classOf x, m⟩ with
    | some a =>
      obtain ⟨before, x, after, split, own, none⟩ := List.findSome?_eq_some_iff.mp first
      refine Or.inl ⟨before, x, a, ?_, ?_, ?_, outcome.trans (congrArg _ first)⟩
      · rw [split, tried_of_found none own]
      · intro y member
        rw [aloneGiven y (by simp [split, member]), none y member]
      · rw [aloneGiven x (by simp [split]), own]
    | none =>
      refine Or.inr ⟨?_, outcome.trans (congrArg _ first)⟩
      intro links x reached
      have member := Raisings.nth_mem_chain closed there reached
      rw [aloneGiven x member, List.findSome?_eq_none_iff.mp first x member]

def circle : Raisings :=
  [{ cls := Hierarchy.builtinPlace "ValueError", cause := some 1 },
    { cls := Hierarchy.builtinPlace "KeyError", cause := some 0 }]

def keyTable : RoutingTable :=
  ⟨[(⟨Hierarchy.builtinPlace "KeyError", .all⟩,
    { function := ⟨"convert", none⟩, name := "convert" })]⟩

theorem circle_resolved :
    ∃ a, ((make Hierarchy.builtin "" {} keyTable).resolveRaised circle 0 (.media .all)).outcome =
      .ok (some a) := by
  have closed : circle.Closed := by simp [Raisings.Closed, circle]
  have exceptional : ∀ raised ∈ circle, Hierarchy.builtin.isExceptionClass raised.cls = true := by
    decide +kernel
  have there : 0 < circle.length := by decide
  have read : (make Hierarchy.builtin "" {} keyTable).requested (.media .all) = .ok .all := rfl
  obtain ⟨_, _, _, _, found | ⟨nothing, _⟩⟩ :=
    resolve_raised_first Hierarchy.builtin "" {} keyTable [] closed exceptional there read
  · obtain ⟨_, _, a, _, _, _, outcome⟩ := found
    exact ⟨a, outcome⟩
  · have second := congrArg (fun outcome => outcome.toOption.join.isSome) (nothing 1 1 rfl)
    exact absurd second (by decide +kernel)

end Router

end HandlerRouting
