import HandlerRouting.Proofs.MediaType.Inclusion
import HandlerRouting.Proofs.Router.Closest

/-!
Requests that differ in parameters only. Overlapping does not look at parameters, so such requests
have the same candidates and come to the same handler, for a class and for a raised exception, and
whatever was asked before.
-/

namespace HandlerRouting
variable {a b : MediaType}

open MediaType (SameKind Overlooked)

namespace RoutingTable

theorem candidates_of_kind (t : RoutingTable) (h : Hierarchy) (c : ClassId) (kind : SameKind a b) :
    t.candidates h ⟨c, a⟩ = t.candidates h ⟨c, b⟩ := by
  refine List.filter_congr fun route _ => ?_
  rw [MediaType.overlaps_of_kind ⟨rfl, rfl⟩ kind]

theorem best_handler_of_kind (t : RoutingTable) (h : Hierarchy) (c : ClassId)
    (kind : SameKind a b) : t.bestHandler h ⟨c, a⟩ = t.bestHandler h ⟨c, b⟩ := by
  simp only [bestHandler, bestRoute, t.candidates_of_kind h c kind]

end RoutingTable

namespace Router
variable {r : Router} {media other : MediaRequest}

theorem given_of_kind (r : Router) (c : ClassId) (kind : SameKind a b) :
    r.given ⟨c, a⟩ = r.given ⟨c, b⟩ := r.table.best_handler_of_kind r.hierarchy c kind

/-- By the table alone, requests of one kind come to the same, in both sorts of lookups. -/
theorem verdict_of_kind (kind : SameKind a b) (read : r.requested media = .ok a)
    (readOther : r.requested other = .ok b) :
    (∀ wanted, r.verdict (.exceptionClass wanted media) =
      r.verdict (.exceptionClass wanted other)) ∧
    ∀ g start, r.verdict (.raised g start media) = r.verdict (.raised g start other) := by
  constructor
  · intro wanted
    simp only [verdict, read, readOther, r.given_of_kind _ kind]
  · intro g start
    simp only [verdict, read, readOther, r.given_of_kind _ kind]

/-- Overlapping is symmetric, it is the same for media types of the same kinds, and it means that
one media type includes the other, but for those that are overlooked. So requests of one kind come
to the same at any two times in a router's life. -/
theorem overlap_blind_to_parameters {a b other another : MediaType} (first : SameKind a other)
    (second : SameKind b another) :
    a.overlaps b = b.overlaps a ∧ a.overlaps b = other.overlaps another ∧
      (a.overlaps b = true ↔ (a.includes b = true ∨ b.includes a = true) ∧ ¬ Overlooked a b) ∧
      ∀ (h : Hierarchy) (name : String) (settings : Settings) (table : RoutingTable)
        (earlier later : List Query) (media otherMedia : MediaRequest),
        let made := make h name settings table
        made.requested media = .ok a → made.requested otherMedia = .ok other →
          (∀ wanted, ((made.after earlier).resolveClass wanted media).outcome =
            ((made.after later).resolveClass wanted otherMedia).outcome) ∧
          ∀ g start, ((made.after earlier).resolveRaised g start media).outcome =
            ((made.after later).resolveRaised g start otherMedia).outcome := by
  refine ⟨MediaType.overlaps_comm a b, MediaType.overlaps_of_kind first second,
    MediaType.overlaps_iff_nested a b, ?_⟩
  intro h name settings table earlier later media otherMedia made read readOther
  have comesTo (queries : List Query) (query : Query) :
      ((made.after queries).answer query).outcome = made.verdict query :=
    (answer_follows (after_follows (make_follows h name settings table) queries) query).1
  obtain ⟨classes, raised⟩ := verdict_of_kind first read readOther
  constructor
  · intro wanted
    exact (comesTo earlier _).trans ((classes wanted).trans (comesTo later _).symm)
  · intro g start
    exact (comesTo earlier _).trans ((raised g start).trans (comesTo later _).symm)

theorem weighted_request_alike :
    ∃ made a b, build Hierarchy.builtin "" {} valueHandlers = .ok made ∧
      MediaType.parse "text/plain;q=0.5" = .ok a ∧ MediaType.parse "text/*;level=1" = .ok b ∧
      b.overlaps a = true ∧ (a.includes b = true ∨ b.includes a = true) ∧
      let wanted : TypeExpr := .cls (Hierarchy.builtinPlace "UnicodeError")
      (made.resolveClass wanted (.given (.text "text/plain;q=0.5"))).outcome =
        ((made.after [.exceptionClass wanted .unset]).resolveClass wanted
          (.media .textPlain)).outcome := by
  let weighted : MediaType := ⟨"text".toList, "plain".toList, [(['q'], "0.5".toList)]⟩
  let leveled : MediaType := ⟨"text".toList, ['*'], [("level".toList, ['1'])]⟩
  obtain ⟨t, built, _⟩ := RoutingTable.exists_of_check Hierarchy.builtin valueHandlers
    (fun t => t.size == 1) (by decide +kernel)
  have success : build Hierarchy.builtin "" {} valueHandlers =
      .ok (make Hierarchy.builtin "" {} t) := by
    rw [build, built]
    rfl
  have read : MediaType.parse "text/plain;q=0.5" = .ok weighted := by decide
  have readToo : MediaType.parse "text/*;level=1" = .ok leveled := by decide
  have first : SameKind weighted .textPlain := by decide
  have second : SameKind leveled leveled.withoutParameters := by decide
  obtain ⟨symmetric, _, nested, alike⟩ := overlap_blind_to_parameters first second
  have overlap : leveled.overlaps weighted = true := symmetric.symm.trans (by decide)
  have same := (alike Hierarchy.builtin "" {} t []
    [.exceptionClass (.cls (Hierarchy.builtinPlace "UnicodeError")) .unset]
    (.given (.text "text/plain;q=0.5")) (.media .textPlain) read rfl).1
  exact ⟨_, weighted, leveled, success, read, readToo, overlap, (nested.mp (by decide)).1, same _⟩

end Router

end HandlerRouting
