import HandlerRouting.Chain.Causes
import HandlerRouting.Proofs.Router.ChainWalk

/-!
Following contexts. A router that follows them finds what one that does not finds, and looks for
more only where that one finds nothing. One that does not follow them cannot tell exceptions apart
by their contexts, neither by what it finds nor by what it keeps and reports.
-/

namespace HandlerRouting.Router
variable {r : Router}

theorem look_up_settings (r : Router) (asked : Route) :
    (r.lookUp asked).router.settings = r.settings := by
  unfold lookUp
  split <;> rfl

theorem walk_causes_only (g : Raisings) (m : MediaType) (chain : List Nat)
    (causes : r.settings.followContext = false) :
    walk g.causesOnly m r chain = walk g m r chain := by
  induction chain generalizing r with
  | nil => rfl
  | cons x rest ih =>
    have further := ih (r := (r.lookUp ⟨g.classOf x, m⟩).router)
      ((look_up_settings r _).symm ▸ causes)
    simp only [walk, causes, g.class_of_causes_only, g.next_causes_only, further]

theorem resolve_raised_causes_only (g : Raisings) (start : Nat) (media : MediaRequest)
    (causes : r.settings.followContext = false) :
    r.resolveRaised g.causesOnly start media = r.resolveRaised g start media := by
  simp only [resolveRaised, causes, g.chain_causes_only, g.class_of_causes_only,
    walk_causes_only g _ _ causes]

/-- What is found by the causes alone is found with contexts as well. -/
theorem verdict_with_contexts (h : Hierarchy) (name : String) (settings : Settings)
    (table : RoutingTable) {g : Raisings} {start : Nat} {media : MediaRequest} {a : Handler}
    (found : (make h name { settings with followContext := false } table).verdict
      (.raised g start media) = .ok (some a)) :
    (make h name { settings with followContext := true } table).verdict
      (.raised g start media) = .ok (some a) := by
  have alike : (make h name { settings with followContext := true } table).requested media =
      (make h name { settings with followContext := false } table).requested media := by
    cases media <;> rfl
  simp only [verdict, alike] at found ⊢
  split at found
  · cases found
  · rw [Except.ok.injEq] at found ⊢
    exact (g.chain_prefix start).findSome?_eq_some found

/-- The chain by causes is the front of the chain by causes and contexts, so what is found along the
one is found along the other. Where contexts are not followed, exceptions that differ in them alone
come to the same lookup. -/
theorem contexts_extend_walk (h : Hierarchy) (name : String) (settings : Settings)
    (table : RoutingTable) (earlier later : List Query) (g : Raisings) (start : Nat)
    (media : MediaRequest) :
    let following := fun contexts => make h name { settings with followContext := contexts } table
    let causesAlone := (following false).after earlier
    g.chain false start <+: g.chain true start ∧
      (∀ a, (causesAlone.resolveRaised g start media).outcome = .ok (some a) →
        (((following true).after later).resolveRaised g start media).outcome = .ok (some a)) ∧
      ∀ other : Raisings, g.causesOnly = other.causesOnly →
        causesAlone.resolveRaised g start media = causesAlone.resolveRaised other start media := by
  intro following causesAlone
  refine ⟨g.chain_prefix start, ?_, ?_⟩
  · intro a found
    rw [resolve_raised_after] at found ⊢
    exact verdict_with_contexts h name settings table found
  · intro other same
    have causes : causesAlone.settings.followContext = false :=
      congrArg Settings.followContext (after_follows (make_follows ..) earlier).settings
    rw [← resolve_raised_causes_only g start media causes, same,
      resolve_raised_causes_only other start media causes]

theorem exists_found {outcome : Except LookupRefusal (Option Handler)}
    (found : outcome.toOption.join.isSome = true) : ∃ a, outcome = .ok (some a) := by
  rcases outcome with _ | _ | a
  · cases found
  · cases found
  · exact ⟨a, rfl⟩

def converted : Raisings :=
  [{ cls := Hierarchy.builtinPlace "RuntimeError", cause := some 1, suppressed := true },
    { cls := Hierarchy.builtinPlace "KeyError", context := some 2 },
    { cls := Hierarchy.builtinPlace "ValueError", context := some 0 }]

theorem converted_resolved :
    let causesAlone := make Hierarchy.builtin "" {} keyTable
    let withContexts := make Hierarchy.builtin "" { followContext := true } keyTable
    (∃ a, (causesAlone.resolveRaised converted 0 (.media .all)).outcome = .ok (some a) ∧
      (withContexts.resolveRaised converted 0 (.media .all)).outcome = .ok (some a)) ∧
    converted ≠ converted.causesOnly ∧
    causesAlone.resolveRaised converted 0 (.media .all) =
      causesAlone.resolveRaised converted.causesOnly 0 (.media .all) := by
  intro causesAlone withContexts
  obtain ⟨_, extended, blind⟩ :=
    contexts_extend_walk Hierarchy.builtin "" {} keyTable [] [] converted 0 (.media .all)
  obtain ⟨a, found⟩ : ∃ a, (causesAlone.resolveRaised converted 0 (.media .all)).outcome =
      .ok (some a) := exists_found (by decide +kernel)
  exact ⟨⟨a, found, extended a found⟩, by decide +kernel, blind converted.causesOnly rfl⟩

end HandlerRouting.Router
