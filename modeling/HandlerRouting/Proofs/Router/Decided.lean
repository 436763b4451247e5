import HandlerRouting.Proofs.RoutingTable.Reordered
import HandlerRouting.Proofs.Router.MostSpecific

/-!
Lookups that are decided: one candidate comes before all others. Then the order of the handlers does
not matter. The candidates of a reordered list are the same routes up to the writing of their media
types, and precedence cannot tell such routes apart.
-/

namespace HandlerRouting
variable {h : Hierarchy}

theorem MediaType.overlaps_congr {a b : MediaType} (same : (a == b) = true) (m : MediaType) :
    a.overlaps m = b.overlaps m := by
  obtain ⟨type, subtype, _⟩ := (MediaType.beq_iff a b).mp same
  simp only [overlaps, hasWildcardType, type, subtype]

namespace Precedence
variable {raised : ClassId} {a b c d : Route}

theorem level_congr (distinct : (Entries.keys a.media.parameters).Nodup)
    (same : (a == b) = true) : level h raised a = level h raised b := by
  obtain ⟨exception, media⟩ := (Route.beq_iff a b).mp same
  rw [level_eq_iff, distance, distance, exception]
  exact ⟨rfl, MediaType.rank_congr distinct media⟩

theorem refines_congr (first : (a == b) = true) (second : (c == d) = true) :
    Refines a c ↔ Refines b d := by
  obtain ⟨typeA, subtypeA, orderA⟩ := (MediaType.beq_iff ..).mp ((Route.beq_iff a b).mp first).2
  obtain ⟨typeC, subtypeC, orderC⟩ := (MediaType.beq_iff ..).mp ((Route.beq_iff c d).mp second).2
  simp only [Refines, MediaType.SameKind, typeA, subtypeA, typeC, subtypeC, orderA.length_eq,
    orderC.length_eq]

theorem before_congr (distinctA : (Entries.keys a.media.parameters).Nodup)
    (distinctB : (Entries.keys b.media.parameters).Nodup)
    (distinctC : (Entries.keys c.media.parameters).Nodup) (first : (a == b) = true)
    (second : (c == d) = true) : before h raised a c = before h raised b d := by
  rw [Bool.eq_iff_iff, before_iff _ _ distinctA, before_iff _ _ distinctB,
    level_congr distinctA first, level_congr distinctC second, refines_congr first second]

end Precedence

namespace RoutingTable
variable {t u : RoutingTable} {asked first : Route} {handlers others : List Handler}

/-- A candidate that comes before all that are not the same as it. -/
structure Decides (t : RoutingTable) (h : Hierarchy) (asked first : Route) : Prop where
  candidate : first ∈ t.candidates h asked
  ahead : ∀ other ∈ t.candidates h asked, (other == first) = false →
    Precedence.before h asked.exception first other = true

theorem Decides.best_route (names : t.NamesDistinct) (decides : t.Decides h asked first) :
    ∃ best, t.bestRoute h asked = some best ∧ (best == first) = true := by
  have something : t.bestRoute h asked ≠ none := by
    intro none
    have empty := (best_route_none_iff t h asked).mp none
    exact List.ne_nil_of_mem decides.candidate empty
  obtain ⟨best, chosen⟩ := Option.ne_none_iff_exists'.mp something
  have cut : Sort.Cut (Precedence.before h asked.exception) (· == first)
      (t.candidates h asked) := by
    apply Sort.cut_of_separated
    intro a ofA b ofB inside outside
    have goes : Precedence.before h asked.exception a b = true := by
      rw [Precedence.before_congr (names.candidate ofA) (names.candidate decides.candidate)
        (names.candidate ofB) inside BEq.rfl]
      exact decides.ahead b ofB outside
    exact ⟨goes, Precedence.before_asymm h asked.exception goes⟩
  exact ⟨best, chosen, Sort.sort_head_belongs cut chosen decides.candidate BEq.rfl⟩

theorem Decides.best_handler (names : t.NamesDistinct) (decides : t.Decides h asked first) :
    ∃ a, t.find? first = some a ∧ t.bestHandler h asked = some a := by
  obtain ⟨best, chosen, same⟩ := decides.best_route names
  obtain ⟨a, found⟩ := find_of_mem_routes ((mem_candidates_iff ..).mp decides.candidate).1
  refine ⟨a, found, ?_⟩
  rw [bestHandler, chosen, Option.bind_some]
  exact (Entries.lookup_congr same t.entries).trans found

theorem exists_same_candidate (routes : ∀ route, t.has route = u.has route) {route : Route}
    (candidate : route ∈ t.candidates h asked) :
    ∃ other ∈ u.candidates h asked, (other == route) = true := by
  obtain ⟨listed, accepts, overlaps⟩ := (mem_candidates_iff ..).mp candidate
  have present : u.has route = true := by
    rw [← routes]
    exact List.any_eq_true.mpr ⟨route, listed, BEq.rfl⟩
  obtain ⟨other, listedToo, same⟩ := List.any_eq_true.mp present
  obtain ⟨exception, media⟩ := (Route.beq_iff ..).mp same
  refine ⟨other, (mem_candidates_iff ..).mpr ⟨listedToo, ?_, ?_⟩, same⟩
  · rwa [exception]
  · rwa [MediaType.overlaps_congr media]

theorem Decides.transfer (names : t.NamesDistinct) (namesToo : u.NamesDistinct)
    (routes : ∀ route, t.has route = u.has route) (decides : t.Decides h asked first) :
    ∃ other, u.Decides h asked other ∧ (other == first) = true := by
  obtain ⟨other, candidate, same⟩ := exists_same_candidate routes decides.candidate
  refine ⟨other, ⟨candidate, ?_⟩, same⟩
  intro behind listed differ
  obtain ⟨original, among, equal⟩ :=
    exists_same_candidate (fun route => (routes route).symm) listed
  have apart : (original == first) = false := by
    rw [← Bool.not_eq_true]
    intro met
    have joined : (behind == other) = true :=
      BEq.trans (BEq.symm equal) (BEq.trans met (BEq.symm same))
    rw [differ] at joined
    cases joined
  rw [Precedence.before_congr (namesToo.candidate candidate) (names.candidate decides.candidate)
    (namesToo.candidate listed) same (BEq.symm equal)]
  exact decides.ahead original among apart

end RoutingTable

namespace Router
variable {name : String} {settings : Settings} {handlers others : List Handler} {made : Router}

/-- A lookup that one candidate decides comes to its function, in whatever order the handlers were
given and whatever was looked up before. -/
theorem resolve_class_decided (order : handlers.Perm others)
    (success : build h name settings handlers = .ok made) (earlier later : List Query)
    {c : ClassId} {media : MediaRequest} {m : MediaType} (exceptional : h.isExceptionClass c = true)
    (read : made.requested media = .ok m) {first : Route}
    (candidate : first ∈ made.table.candidates h ⟨c, m⟩)
    (ahead : ∀ other ∈ made.table.candidates h ⟨c, m⟩, (other == first) = false →
      Precedence.compare h c first other = .lt) :
    ∃ moved a b, build h name settings others = .ok moved ∧
      made.table.find? first = some a ∧ moved.table.find? first = some b ∧
      ((made.after earlier).resolveClass (.cls c) media).outcome = .ok (some a) ∧
      ((moved.after later).resolveClass (.cls c) media).outcome = .ok (some b) ∧
      a.function = b.function := by
  obtain ⟨built, whole⟩ := make_of_build success
  obtain ⟨u, builtToo⟩ := RoutingTable.build_perm order built
  have successToo : build h name settings others = .ok (make h name settings u) := by
    rw [build, builtToo]
    rfl
  have readToo : (make h name settings u).requested media = .ok m := by
    rw [whole] at read
    exact read
  have names := RoutingTable.names_distinct_of_build built
  have namesToo := RoutingTable.names_distinct_of_build builtToo
  have decides : made.table.Decides h ⟨c, m⟩ first := ⟨candidate, fun other listed differ => by
    rw [Precedence.before, ahead other listed differ]
    rfl⟩
  obtain ⟨a, held, best⟩ := decides.best_handler names
  obtain ⟨same, decidesToo, equal⟩ :=
    decides.transfer names namesToo (RoutingTable.has_perm order built builtToo)
  obtain ⟨b, heldToo, bestToo⟩ := decidesToo.best_handler namesToo
  have onFirst : u.find? first = some b :=
    (Entries.lookup_congr (BEq.symm equal) u.entries).trans heldToo
  refine ⟨make h name settings u, a, b, successToo, held, onFirst, ?_, ?_, ?_⟩
  · rw [resolve_class_of_build success earlier exceptional read, best]
  · rw [resolve_class_of_build successToo later exceptional readToo]
    exact congrArg _ bestToo
  · have alike := RoutingTable.find_function_perm order built builtToo first
    rw [held, onFirst] at alike
    exact Option.some.inj alike

def keyHandlers : List Handler :=
  let handling := fun (name exception : String) (mediaTypes : List Datum) =>
    { function := ⟨name, none⟩, exceptions := [.cls (Hierarchy.builtinPlace exception)],
      mediaTypes, name : Handler }
  [handling "lookup" "LookupError" [], handling "text" "KeyError" [.text "text/*"],
    handling "page" "KeyError" [.text "text/html;level=1"]]

theorem key_page_decided :
    ∃ made moved a b, build Hierarchy.builtin "" {} keyHandlers = .ok made ∧
      build Hierarchy.builtin "" {} keyHandlers.reverse = .ok moved ∧
      (made.resolveClass (.cls (Hierarchy.builtinPlace "KeyError")) .unset).outcome =
        .ok (some a) ∧
      (moved.resolveClass (.cls (Hierarchy.builtinPlace "KeyError")) .unset).outcome =
        .ok (some b) ∧
      a.name = "page" ∧ a.function = b.function := by
  let c := Hierarchy.builtinPlace "KeyError"
  obtain ⟨t, built, checked⟩ := RoutingTable.exists_of_check Hierarchy.builtin keyHandlers
    (fun t => (t.candidates Hierarchy.builtin ⟨c, .all⟩).any fun first =>
      ((t.find? first).map Handler.name == some "page") &&
        (t.candidates Hierarchy.builtin ⟨c, .all⟩).all fun other =>
          other == first || Precedence.compare Hierarchy.builtin c first other == .lt)
    (by decide +kernel)
  obtain ⟨first, candidate, checked⟩ := List.any_eq_true.mp checked
  rw [Bool.and_eq_true, beq_iff_eq, List.all_eq_true] at checked
  obtain ⟨named, leads⟩ := checked
  have success : build Hierarchy.builtin "" {} keyHandlers =
      .ok (make Hierarchy.builtin "" {} t) := by
    rw [build, built]
    rfl
  have exceptional : Hierarchy.builtin.isExceptionClass c = true := by decide +kernel
  have read : (make Hierarchy.builtin "" {} t).requested .unset = .ok .all := by rfl
  have ahead : ∀ other ∈ t.candidates Hierarchy.builtin ⟨c, .all⟩, (other == first) = false →
      Precedence.compare Hierarchy.builtin c first other = .lt := by
    intro other among differ
    simpa [differ] using leads other among
  obtain ⟨moved, a, b, successToo, held, _, found, foundToo, alike⟩ :=
    resolve_class_decided (List.reverse_perm keyHandlers).symm success [] [] exceptional read
      candidate ahead
  have name : t.find? first = some a := held
  rw [name] at named
  exact ⟨_, moved, a, b, success, successToo, found, foundToo, by simpa using named, alike⟩

end Router

end HandlerRouting
