import HandlerRouting.Proofs.Hierarchy.Lineage
import HandlerRouting.Proofs.Precedence.Sorting
import HandlerRouting.Proofs.Router.Caching
import HandlerRouting.Proofs.RoutingTable.Built

/-!
The closest class wins, and every route of a table can be reached. A lookup comes to nothing only
where there is no candidate; otherwise it comes to the handler on a candidate whose class is at the
smallest distance.
-/

namespace HandlerRouting
variable {h : Hierarchy}

namespace RoutingTable
variable {t : RoutingTable} {asked best other : Route}

theorem mem_candidates_iff (t : RoutingTable) (h : Hierarchy) (asked route : Route) :
    route ∈ t.candidates h asked ↔ route ∈ t.routes ∧
      h.isSubclass asked.exception route.exception = true ∧
      route.media.overlaps asked.media = true := by
  simp [candidates]

theorem best_route_mem (chosen : t.bestRoute h asked = some best) :
    best ∈ t.candidates h asked :=
  (Sort.sort_perm _ _).mem_iff.mp (List.mem_of_head? chosen)

theorem best_route_none_iff (t : RoutingTable) (h : Hierarchy) (asked : Route) :
    t.bestRoute h asked = none ↔ t.candidates h asked = [] := by
  rw [bestRoute, List.head?_eq_none_iff]
  constructor
  · intro none
    have perm := Sort.sort_perm (Precedence.before h asked.exception) (t.candidates h asked)
    rw [none] at perm
    exact perm.symm.eq_nil
  · intro none
    rw [none, Sort.sort_nil]

theorem best_route_nearest (chosen : t.bestRoute h asked = some best)
    (candidate : other ∈ t.candidates h asked) :
    h.distance asked.exception best.exception ≤ h.distance asked.exception other.exception :=
  Sort.sort_head_le (Precedence.distance h asked.exception)
    (fun _ _ _ _ nearer => ⟨Precedence.before_of_nearer h asked.exception nearer,
      Precedence.not_before_of_nearer h asked.exception nearer⟩) chosen candidate

theorem find_of_mem_routes (member : best ∈ t.routes) : ∃ a, t.find? best = some a := by
  apply Option.ne_none_iff_exists'.mp
  intro absent
  have unknown := (find_none_iff t best).mp absent
  rw [List.any_eq_false] at unknown
  exact unknown best member BEq.rfl

theorem best_handler_none_iff (t : RoutingTable) (h : Hierarchy) (asked : Route) :
    t.bestHandler h asked = none ↔ ∀ route ∈ t.routes,
      ¬ (h.isSubclass asked.exception route.exception = true ∧
        route.media.overlaps asked.media = true) := by
  have empty : t.bestHandler h asked = none ↔ t.candidates h asked = [] := by
    rw [← best_route_none_iff, bestHandler]
    cases chosen : t.bestRoute h asked with
    | none => simp
    | some best =>
      -- A best route is one of the table's, so it has a handler.
      obtain ⟨a, found⟩ := find_of_mem_routes ((mem_candidates_iff ..).mp (best_route_mem chosen)).1
      simp [found]
  rw [empty, List.eq_nil_iff_forall_not_mem]
  simp only [mem_candidates_iff, not_and]

/-- What a lookup finds stands on a nearest candidate. -/
theorem best_handler_nearest {a : Handler} (found : t.bestHandler h asked = some a) :
    ∃ best ∈ t.candidates h asked, t.find? best = some a ∧
      ∀ other ∈ t.candidates h asked,
        h.distance asked.exception best.exception ≤ h.distance asked.exception other.exception := by
  obtain ⟨best, chosen, held⟩ := Option.bind_eq_some_iff.mp found
  exact ⟨best, best_route_mem chosen, held, fun _ => best_route_nearest chosen⟩

theorem best_handler_own (built : h.Built) {route : Route} (listed : route ∈ t.routes)
    (exceptional : h.isExceptionClass route.exception = true) :
    ∃ own ∈ t.routes, own.exception = route.exception ∧
      ∃ a, t.find? own = some a ∧ t.bestHandler h route = some a := by
  have itself : route ∈ t.candidates h route := (mem_candidates_iff ..).mpr
    ⟨listed, built.accepts_self exceptional, route.media.overlaps_refl⟩
  have something : t.bestHandler h route ≠ none := by
    intro none
    exact (best_handler_none_iff ..).mp none route listed ((mem_candidates_iff ..).mp itself).2
  obtain ⟨a, found⟩ := Option.ne_none_iff_exists'.mp something
  obtain ⟨own, candidate, held, nearest⟩ := best_handler_nearest found
  have near := nearest route itself
  rw [(built.distance_zero_iff exceptional route.exception).mpr rfl] at near
  have same := (built.distance_zero_iff exceptional own.exception).mp (Nat.le_zero.mp near)
  exact ⟨own, ((mem_candidates_iff ..).mp candidate).1, same, a, held, found⟩

theorem best_handler_all_iff (t : RoutingTable) (h : Hierarchy) (c : ClassId) :
    t.bestHandler h ⟨c, .all⟩ ≠ none ↔
      ∃ handled ∈ t.handledClasses, h.isSubclass c handled = true := by
  rw [Ne, best_handler_none_iff]
  simp only [handledClasses, mem_distinct, List.mem_map]
  constructor
  · intro some
    by_contra none
    apply some
    rintro route listed ⟨accepts, _⟩
    exact none ⟨route.exception, ⟨route, listed, rfl⟩, accepts⟩
  · rintro ⟨_, ⟨route, listed, rfl⟩, accepts⟩ none
    have overlaps : route.media.overlaps .all = true := by
      simp [MediaType.overlaps, MediaType.all, MediaType.hasWildcardType]
    exact none route listed ⟨accepts, overlaps⟩

end RoutingTable

namespace Router
variable {name : String} {settings : Settings} {handlers : List Handler} {made : Router}

theorem make_of_build (success : build h name settings handlers = .ok made) :
    RoutingTable.build h handlers = .ok made.table ∧
      made = make h name settings made.table := by
  unfold build at success
  cases built : RoutingTable.build h handlers with
  | error failure => simp [built, Except.map] at success
  | ok table =>
    simp only [built, Except.map, Except.ok.injEq] at success
    subst success
    exact ⟨rfl, rfl⟩

theorem resolve_class_of_build (success : build h name settings handlers = .ok made)
    (earlier : List Query) {c : ClassId} {media : MediaRequest} {m : MediaType}
    (exceptional : h.isExceptionClass c = true) (read : made.requested media = .ok m) :
    ((made.after earlier).resolveClass (.cls c) media).outcome =
      .ok (made.table.bestHandler h ⟨c, m⟩) := by
  have whole := (make_of_build success).2
  have follows : made.Follows (made.after earlier) := by
    apply after_follows
    rw [whole]
    exact make_follows ..
  have ofMade : made.hierarchy = h := by
    rw [whole]
    rfl
  have found := resolve_class_follows follows (ofMade ▸ exceptional) read
  rwa [Router.given, ofMade] at found

/-- Lookups by class at any time in a router's life: nothing is found only where no route is a
candidate, else a handler on a nearest candidate is. Every route leads to a handler of its own
class, and for all media types a handler is found where some handled class accepts the one asked
for. -/
theorem resolve_class_closest (built : h.Built)
    (success : build h name settings handlers = .ok made) (earlier : List Query) :
    let t := made.table
    let outcome := fun c media => ((made.after earlier).resolveClass (.cls c) media).outcome
    (∀ c media m, h.isExceptionClass c = true → made.requested media = .ok m →
      (outcome c media = .ok none ↔ ∀ route ∈ t.routes,
        ¬ (h.isSubclass c route.exception = true ∧ route.media.overlaps m = true)) ∧
      (outcome c media ≠ .ok none → ∃ best ∈ t.routes, ∃ a,
        outcome c media = .ok (some a) ∧ t.find? best = some a ∧
        h.isSubclass c best.exception = true ∧ best.media.overlaps m = true ∧
        ∀ other ∈ t.routes, h.isSubclass c other.exception = true →
          other.media.overlaps m = true →
          h.distance c best.exception ≤ h.distance c other.exception)) ∧
    (∀ route ∈ t.routes, ∃ own ∈ t.routes, own.exception = route.exception ∧ ∃ a,
      t.find? own = some a ∧ outcome route.exception (.media route.media) = .ok (some a)) ∧
    (∀ c, h.isExceptionClass c = true → (outcome c (.media .all) ≠ .ok none ↔
      ∃ handled ∈ t.handledClasses, h.isSubclass c handled = true)) := by
  intro t outcome
  have answer : ∀ c media m, h.isExceptionClass c = true → made.requested media = .ok m →
      outcome c media = .ok (t.bestHandler h ⟨c, m⟩) := fun _ _ _ =>
    resolve_class_of_build success earlier
  refine ⟨?_, ?_, ?_⟩
  · intro c media m exceptional read
    rw [answer c media m exceptional read, Except.ok.injEq]
    refine ⟨t.best_handler_none_iff h ⟨c, m⟩, ?_⟩
    intro something
    obtain ⟨a, found⟩ := Option.ne_none_iff_exists'.mp fun none => something (congrArg _ none)
    obtain ⟨best, candidate, held, nearest⟩ := RoutingTable.best_handler_nearest found
    obtain ⟨listed, accepts, overlaps⟩ := (RoutingTable.mem_candidates_iff ..).mp candidate
    refine ⟨best, listed, a, congrArg _ found, held, accepts, overlaps, ?_⟩
    intro other otherListed otherAccepts otherOverlaps
    exact nearest other
      ((RoutingTable.mem_candidates_iff ..).mpr ⟨otherListed, otherAccepts, otherOverlaps⟩)
  · intro route listed
    have exceptional :=
      (RoutingTable.build_sound (make_of_build success).1 route listed).exception
    rw [answer route.exception (.media route.media) route.media exceptional rfl]
    obtain ⟨own, ownListed, same, a, held, found⟩ :=
      RoutingTable.best_handler_own built listed exceptional
    exact ⟨own, ownListed, same, a, held, congrArg _ found⟩
  · intro c exceptional
    rw [answer c (.media .all) .all exceptional rfl, Ne, Except.ok.injEq]
    exact t.best_handler_all_iff h c

def valueHandlers : List Handler :=
  [{ function := ⟨"convert", none⟩, name := "convert"
     exceptions := [.cls (Hierarchy.builtinPlace "ValueError")] }]

theorem value_handlers_reached :
    ∃ made, build Hierarchy.builtin "" {} valueHandlers = .ok made ∧
      ∀ c, Hierarchy.builtin.isExceptionClass c = true →
        (((made.after []).resolveClass (.cls c) (.media .all)).outcome ≠ .ok none ↔
          Hierarchy.builtin.isSubclass c (Hierarchy.builtinPlace "ValueError") = true) := by
  obtain ⟨t, built, handled⟩ := RoutingTable.exists_of_check Hierarchy.builtin valueHandlers
    (fun t => t.handledClasses == [Hierarchy.builtinPlace "ValueError"]) (by decide +kernel)
  have success : build Hierarchy.builtin "" {} valueHandlers =
      .ok (make Hierarchy.builtin "" {} t) := by
    rw [build, built]
    rfl
  refine ⟨_, success, ?_⟩
  intro c exceptional
  have reached := (resolve_class_closest Hierarchy.built_builtin success []).2.2 c exceptional
  have only : (make Hierarchy.builtin "" {} t).table.handledClasses =
      [Hierarchy.builtinPlace "ValueError"] := beq_iff_eq.mp handled
  simpa [only] using reached

end Router

end HandlerRouting
