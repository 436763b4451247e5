import HandlerRouting.Hierarchy.Builtin
import HandlerRouting.Proofs.RoutingTable.Declarations

/-!
Tables of one list of handlers in different orders. The order decides which of several claims on a
route comes first, but in a valid list all of them are claims of one function.
-/

namespace HandlerRouting
variable {h : Hierarchy}

namespace RoutingTable
variable {handlers others : List Handler}

theorem has_eq_find (t : RoutingTable) (route : Route) : t.has route = (t.find? route).isSome := by
  cases held : t.find? route with
  | none => exact (find_none_iff t route).mp held
  | some a =>
    apply eq_true_of_ne_false
    intro free
    rw [has, ← find_none_iff, held] at free
    cases free

theorem mem_declared_by {claim : Route × Handler} :
    claim ∈ declaredBy h handlers ↔
      claim.2 ∈ handlers ∧ claim.1 ∈ claim.2.declaredRoutes h := by
  obtain ⟨route, a⟩ := claim
  simp only [declaredBy, Handler.declared, List.mem_flatMap, List.mem_map, Prod.mk.injEq]
  constructor
  · rintro ⟨_, member, _, own, rfl, rfl⟩
    exact ⟨member, own⟩
  · rintro ⟨member, own⟩
    exact ⟨a, member, route, own, rfl, rfl⟩

theorem has_iff_declared {t : RoutingTable} (built : build h handlers = .ok t) (route : Route) :
    t.has route = true ↔
      ∃ a ∈ handlers, ∃ own ∈ a.declaredRoutes h, (route == own) = true := by
  rw [has_eq_find, find_of_first_claims (build_declared built).2, Option.isSome_iff_exists]
  constructor
  · rintro ⟨b, found⟩
    obtain ⟨claim, member, same, _⟩ := Entries.exists_mem_of_lookup found
    obtain ⟨listed, among⟩ := mem_declared_by.mp member
    exact ⟨claim.2, listed, claim.1, among, same⟩
  · rintro ⟨a, listed, own, among, same⟩
    have member : (own, a) ∈ declaredBy h handlers := mem_declared_by.mpr ⟨listed, among⟩
    exact Entries.exists_lookup_of_mem member same

theorem declared_by_perm (h : Hierarchy) (order : handlers.Perm others) :
    (declaredBy h handlers).Perm (declaredBy h others) := order.flatMap_right _

theorem Valid.perm (valid : Valid h handlers) (order : handlers.Perm others) : Valid h others := by
  have claims := declared_by_perm h order
  refine ⟨?_, ?_, ?_⟩
  · intro a member
    exact valid.known a (order.mem_iff.mpr member)
  · intro a member
    exact valid.readable a (order.mem_iff.mpr member)
  · intro x ofX y ofY
    exact valid.agree x (claims.mem_iff.mpr ofX) y (claims.mem_iff.mpr ofY)

/-- The first claim on a route may be another one in another order, but not that of another
function. -/
theorem lookup_function_perm {claims moved : List (Route × Handler)} (agree : Agree claims)
    (order : claims.Perm moved) (route : Route) :
    (claims.lookup route).map Handler.function = (moved.lookup route).map Handler.function := by
  cases found : claims.lookup route with
  | none =>
    have nowhere : moved.lookup route = none := by
      apply List.lookup_eq_none_iff.mpr
      intro claim member
      exact List.lookup_eq_none_iff.mp found claim (order.mem_iff.mpr member)
    rw [nowhere]
  | some a =>
    obtain ⟨claim, member, same, rfl⟩ := Entries.exists_mem_of_lookup found
    obtain ⟨b, foundToo⟩ := Entries.exists_lookup_of_mem (order.mem_iff.mp member) same
    obtain ⟨other, among, sameToo, rfl⟩ := Entries.exists_mem_of_lookup foundToo
    have equal := agree claim member other (order.mem_iff.mpr among)
      (BEq.trans (BEq.symm same) sameToo)
    rw [foundToo, Option.map_some, Option.map_some, equal]

theorem find_function_perm {t u : RoutingTable} (order : handlers.Perm others)
    (built : build h handlers = .ok t) (builtToo : build h others = .ok u) (route : Route) :
    (t.find? route).map Handler.function = (u.find? route).map Handler.function := by
  obtain ⟨valid, held⟩ := build_declared built
  obtain ⟨_, heldToo⟩ := build_declared builtToo
  rw [find_of_first_claims held, find_of_first_claims heldToo]
  exact lookup_function_perm valid.agree (declared_by_perm h order) route

theorem has_perm {t u : RoutingTable} (order : handlers.Perm others)
    (built : build h handlers = .ok t) (builtToo : build h others = .ok u) (route : Route) :
    t.has route = u.has route := by
  have found := congrArg Option.isSome (find_function_perm order built builtToo route)
  rwa [Option.isSome_map, Option.isSome_map, ← has_eq_find, ← has_eq_find] at found

theorem build_perm {t : RoutingTable} (order : handlers.Perm others)
    (built : build h handlers = .ok t) : ∃ u, build h others = .ok u :=
  ⟨⟨firstClaims [] (declaredBy h others)⟩,
    (build_ok_iff ..).mpr ⟨(build_declared built).1.perm order, rfl⟩⟩

/-- Whether a table can be built does not depend on the order of its handlers, and neither does
which routes it has or which function stands on each of them. -/
theorem build_reordered (h : Hierarchy) (order : handlers.Perm others) :
    (∀ failure, build h handlers = .error failure → ∃ other, build h others = .error other) ∧
    ∀ t, build h handlers = .ok t → ∃ u, build h others = .ok u ∧ ∀ route,
      t.has route = u.has route ∧
        (t.find? route).map Handler.function = (u.find? route).map Handler.function := by
  constructor
  · intro failure stopped
    cases builtToo : build h others with
    | error other => exact ⟨other, rfl⟩
    | ok u =>
      obtain ⟨t, built⟩ := build_perm order.symm builtToo
      rw [stopped] at built
      cases built
  · intro t built
    obtain ⟨u, builtToo⟩ := build_perm order built
    refine ⟨u, builtToo, fun route => ⟨?_, ?_⟩⟩
    · exact has_perm order built builtToo route
    · exact find_function_perm order built builtToo route

/-- One function under two names and another one, which claim a route in common and one apart. -/
def renamedHandlers : List Handler :=
  let onValues := fun name function media : String =>
    { function := ⟨function, none⟩, exceptions := [.cls (Hierarchy.builtinPlace "ValueError")],
      mediaTypes := [.text media], name : Handler }
  [onValues "first" "convert" "text/html", onValues "other" "show" "text/plain",
    onValues "second" "convert" "TEXT/HTML"]

theorem renamed_handlers_reordered :
    ∃ t u, build Hierarchy.builtin renamedHandlers = .ok t ∧
      build Hierarchy.builtin renamedHandlers.reverse = .ok u ∧
      t.handlers.map Handler.name = ["first", "other"] ∧
      u.handlers.map Handler.name = ["second", "other"] ∧
      ∀ route, (t.find? route).map Handler.function = (u.find? route).map Handler.function := by
  obtain ⟨t, built, names⟩ := exists_of_check Hierarchy.builtin renamedHandlers
    (fun t => t.handlers.map Handler.name == ["first", "other"]) (by decide +kernel)
  obtain ⟨v, builtToo, namesToo⟩ := exists_of_check Hierarchy.builtin renamedHandlers.reverse
    (fun u => u.handlers.map Handler.name == ["second", "other"]) (by decide +kernel)
  have order := (List.reverse_perm renamedHandlers).symm
  obtain ⟨u, again, alike⟩ := (build_reordered Hierarchy.builtin order).2 t built
  obtain rfl : v = u := by
    rw [builtToo] at again
    exact Except.ok.inj again
  exact ⟨t, v, built, builtToo, beq_iff_eq.mp names, beq_iff_eq.mp namesToo,
    fun route => (alike route).2⟩

end RoutingTable

end HandlerRouting
