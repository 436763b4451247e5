import HandlerRouting.Proofs.Hierarchy.Acceptance
import HandlerRouting.Proofs.Router.Closest

/-!
Lookups of a class and of what descends from it. Whatever accepts a class accepts its descendants,
so they find a handler where it finds one. Of two classes of a lineage, one of which descends from
the other, the lower one is nearer and is found first. Outside the lineage all classes are at one
distance, and descent does not count.
-/

namespace HandlerRouting

namespace Hierarchy
variable {h : Hierarchy}

theorem Built.exceptional_of_descends (built : h.Built) {lower upper : ClassId}
    (descends : upper ∈ h.lineage lower) (exceptional : h.isExceptionClass upper = true) :
    h.isExceptionClass lower = true := by
  rw [isExceptionClass, List.contains_iff_mem] at exceptional ⊢
  exact (built.lineage_sublist descends).mem exceptional

def recoverable : ClassId := 2

def transient : ClassId := 3

def outage : ClassId := 4

def reset : ClassId := 5

def recoveries : Hierarchy :=
  let roots := defineBuiltins ⟨[]⟩ [("object", []), ("BaseException", [rootClass])]
  let upper := (roots.define? "app" "Recoverable" [exceptionRoot] true).getD roots
  let lower := (upper.define? "app" "Transient" [recoverable] true).getD upper
  let kinds := defineBuiltins lower [("Outage", [exceptionRoot]), ("Reset", [outage])]
  kinds.register transient outage

theorem recoveries_built : recoveries.Built :=
  (built_define_builtins
    (((built_define_builtins .empty _).define_or ..).define_or ..) _).register ..

end Hierarchy

namespace RoutingTable
variable {h : Hierarchy} {t : RoutingTable}

theorem best_handler_inherited (built : h.Built) {lower upper : ClassId} {m : MediaType}
    (descends : upper ∈ h.lineage lower) (found : t.bestHandler h ⟨upper, m⟩ ≠ none) :
    t.bestHandler h ⟨lower, m⟩ ≠ none := by
  intro nothing
  refine found ((best_handler_none_iff ..).mpr ?_)
  rintro route listed ⟨accepts, overlaps⟩
  have inherited := ((Hierarchy.is_subclass_iff_accepts ..).mp accepts).inherited built descends
  exact (best_handler_none_iff ..).mp nothing route listed
    ⟨(Hierarchy.is_subclass_iff_accepts ..).mpr inherited, overlaps⟩

/-- A candidate keeps all classes that are farther away from being found. -/
theorem best_handler_nearer {asked candidate : Route} {upper : ClassId}
    (among : candidate ∈ t.candidates h asked)
    (nearer : h.distance asked.exception candidate.exception < h.distance asked.exception upper) :
    ∃ best ∈ t.routes, ∃ a, t.bestHandler h asked = some a ∧ t.find? best = some a ∧
      best.exception ≠ upper := by
  have something : t.bestHandler h asked ≠ none := by
    intro nothing
    obtain ⟨listed, matched⟩ := (mem_candidates_iff ..).mp among
    exact (best_handler_none_iff ..).mp nothing candidate listed matched
  obtain ⟨a, found⟩ := Option.ne_none_iff_exists'.mp something
  obtain ⟨best, chosen, held, nearest⟩ := best_handler_nearest found
  refine ⟨best, ((mem_candidates_iff ..).mp chosen).1, a, found, held, ?_⟩
  rintro rfl
  exact Nat.not_le_of_lt nearer (nearest candidate among)

end RoutingTable

namespace Precedence
variable {h : Hierarchy} {c : ClassId}

theorem compare_of_distance {lower upper : ClassId}
    (same : h.distance c lower = h.distance c upper) (a b : MediaType) :
    compare h c ⟨lower, a⟩ ⟨upper, b⟩ = compare h c ⟨upper, a⟩ ⟨upper, b⟩ := by
  simp only [compare, distance, same]

end Precedence

namespace Router
variable {h : Hierarchy} {r later : Router} {c lower upper : ClassId}

theorem found_of_resolve_class (follows : r.Follows later) {media : MediaRequest} {a : Handler}
    (found : (later.resolveClass (.cls c) media).outcome = .ok (some a)) :
    r.hierarchy.isExceptionClass c = true ∧
      ∃ m, r.requested media = .ok m ∧ r.given ⟨c, m⟩ = some a := by
  have answer : r.verdict (.exceptionClass (.cls c) media) = .ok (some a) :=
    (answer_follows follows (.exceptionClass (.cls c) media)).1.symm.trans found
  by_cases exceptional : r.hierarchy.isExceptionClass c = true
  · simp only [verdict, TypeExpr.exceptionClass?, exceptional, ↓reduceIte] at answer
    cases read : r.requested media with
    | error refusal => simp [read] at answer
    | ok m => exact ⟨exceptional, m, rfl, by simpa [read] using answer⟩
  · simp [verdict, TypeExpr.exceptionClass?, exceptional] at answer

/-- A class is accepted where it descends from, and where a delegate accepts it. So what descends
from a class finds a handler wherever that class does, at any two times in a router's life. -/
theorem coverage_inherited (built : h.Built) (name : String) (settings : Settings)
    (table : RoutingTable) (earlier later : List Query) (descends : upper ∈ h.lineage lower) :
    let made := make h name settings table
    (∀ c ancestor, h.isSubclass c ancestor = true ↔ h.Accepts c ancestor) ∧
      ∀ media a, ((made.after earlier).resolveClass (.cls upper) media).outcome = .ok (some a) →
        ∃ b, ((made.after later).resolveClass (.cls lower) media).outcome = .ok (some b) := by
  intro made
  refine ⟨h.is_subclass_iff_accepts, ?_⟩
  intro media a found
  have fresh : made.Follows made := make_follows h name settings table
  obtain ⟨exceptional, m, read, given⟩ :=
    found_of_resolve_class (after_follows fresh earlier) found
  have something : table.bestHandler h ⟨lower, m⟩ ≠ none :=
    RoutingTable.best_handler_inherited built descends
      (Option.ne_none_iff_exists'.mpr ⟨a, given⟩)
  obtain ⟨b, inherited⟩ := Option.ne_none_iff_exists'.mp something
  have outcome := resolve_class_follows (after_follows fresh later)
    (built.exceptional_of_descends descends exceptional) read
  exact ⟨b, outcome.trans (congrArg _ inherited)⟩

open Hierarchy (recoveries recoverable transient outage reset exceptionRoot)

def handling (name : String) (c : ClassId) : Handler :=
  { function := ⟨name, none⟩, exceptions := [.cls c], name }

def recoveryTable : RoutingTable :=
  ⟨[(⟨recoverable, .all⟩, handling "recover" recoverable)]⟩

theorem reset_recovered :
    ∃ a b, ((make recoveries "" {} recoveryTable).resolveClass (.cls outage) .unset).outcome =
        .ok (some a) ∧
      ((make recoveries "" {} recoveryTable).resolveClass (.cls reset) .unset).outcome =
        .ok (some b) := by
  have descends : outage ∈ recoveries.lineage reset := by decide
  obtain ⟨_, inherited⟩ := coverage_inherited Hierarchy.recoveries_built "" {} recoveryTable [] []
    descends
  have found : ((make recoveries "" {} recoveryTable).resolveClass (.cls outage) .unset).outcome =
      .ok (some (handling "recover" recoverable)) := by rfl
  obtain ⟨b, foundToo⟩ := inherited .unset _ found
  exact ⟨_, b, found, foundToo⟩

/-- Of two classes, one of which descends from the other, the lower one is nearer to all that
descend from it, and then nothing is found on the upper one where the lower one has a route. To a
class that both accept without being ancestors of it they are equally far, behind all ancestors. -/
theorem descendant_nearer (built : h.Built) (name : String) (settings : Settings)
    (table : RoutingTable) (earlier : List Query) (c : ClassId)
    (descends : upper ∈ h.lineage lower) (differ : lower ≠ upper) :
    let made := make h name settings table
    (lower ∈ h.lineage c →
      h.distance c lower < h.distance c upper ∧
      ∀ media m, h.isExceptionClass c = true → made.requested media = .ok m →
        ∀ route ∈ table.routes, route.exception = lower → route.media.overlaps m = true →
          ∃ best ∈ table.routes, ∃ a,
            ((made.after earlier).resolveClass (.cls c) media).outcome = .ok (some a) ∧
            table.find? best = some a ∧ best.exception ≠ upper) ∧
    (lower ∉ h.lineage c → upper ∉ h.lineage c →
      h.distance c lower = (h.lineage c).length ∧ h.distance c upper = (h.lineage c).length ∧
      ∀ a b, Precedence.compare h c ⟨lower, a⟩ ⟨upper, b⟩ =
        Precedence.compare h c ⟨upper, a⟩ ⟨upper, b⟩) := by
  intro made
  constructor
  · intro member
    have nearer := built.distance_lt descends differ member
    refine ⟨nearer, ?_⟩
    rintro media m exceptional read route listed rfl overlaps
    have candidate : route ∈ table.candidates h ⟨c, m⟩ := (RoutingTable.mem_candidates_iff ..).mpr
      ⟨listed, Hierarchy.accepts_of_lineage member, overlaps⟩
    obtain ⟨best, bestListed, a, found, held, other⟩ :=
      RoutingTable.best_handler_nearer candidate nearer
    have outcome := resolve_class_follows
      (after_follows (make_follows h name settings table) earlier) exceptional read
    exact ⟨best, bestListed, a, outcome.trans (congrArg _ found), held, other⟩
  · intro outside outsideToo
    have far := Hierarchy.distance_of_not_mem outside
    have farToo := Hierarchy.distance_of_not_mem outsideToo
    exact ⟨far, farToo, Precedence.compare_of_distance (far.trans farToo.symm)⟩

def nestedTable : RoutingTable :=
  ⟨[(⟨exceptionRoot, .all⟩, handling "log" exceptionRoot),
    (⟨outage, .all⟩, handling "restart" outage)]⟩

theorem reset_restarted :
    recoveries.distance reset outage < recoveries.distance reset exceptionRoot ∧
      (∃ best ∈ nestedTable.routes, ∃ a,
        ((make recoveries "" {} nestedTable).resolveClass (.cls reset) .unset).outcome =
          .ok (some a) ∧
        nestedTable.find? best = some a ∧ best.exception ≠ exceptionRoot) ∧
      recoveries.distance reset transient = recoveries.distance reset recoverable := by
  have descends : exceptionRoot ∈ recoveries.lineage outage := by decide
  have descendsToo : recoverable ∈ recoveries.lineage transient := by decide
  have real := descendant_nearer Hierarchy.recoveries_built "" {} nestedTable [] reset
    descends (by decide)
  have virtual := descendant_nearer Hierarchy.recoveries_built "" {} nestedTable [] reset
    descendsToo (by decide)
  obtain ⟨nearer, found⟩ := real.1 (by decide)
  obtain ⟨far, farToo, _⟩ := virtual.2 (by decide) (by decide)
  have listed : ⟨outage, .all⟩ ∈ nestedTable.routes := by simp [nestedTable, RoutingTable.routes]
  exact ⟨nearer, found .unset .all (by decide) rfl _ listed rfl (by decide), far.trans farToo.symm⟩

def abstractHandlers : List Handler :=
  [handling "recover" recoverable, handling "retry" transient]

/-- Of two abstract classes that outages are not descended from, the upper one is found where it is
declared first. -/
theorem upper_abstract_class_found :
    recoveries.Built ∧ recoverable ∈ recoveries.lineage transient ∧ transient ≠ recoverable ∧
      recoveries.isSubclass outage transient = true ∧
      recoveries.isSubclass outage recoverable = true ∧
      transient ∉ recoveries.lineage outage ∧ recoverable ∉ recoveries.lineage outage ∧
      ¬ recoveries.distance outage transient < recoveries.distance outage recoverable ∧
      ∃ made, build recoveries "" {} abstractHandlers = .ok made ∧
        made.table.find? ⟨transient, .all⟩ = some (handling "retry" transient) ∧
        (made.resolveClass (.cls outage) .unset).outcome =
          .ok (some (handling "recover" recoverable)) := by
  refine ⟨Hierarchy.recoveries_built, ?_, ?_, ?_, ?_, ?_, ?_, ?_, _, rfl, rfl, rfl⟩
  all_goals decide

end Router

end HandlerRouting
