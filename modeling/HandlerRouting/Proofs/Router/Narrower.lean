import HandlerRouting.Proofs.MediaType.Nesting
import HandlerRouting.Proofs.Router.MostSpecific

/-!
Narrower media types win. Where a candidate has a narrower media type of the same quality than
another one and is no farther, the other one is not picked, in whichever order the two were
declared. Only suffixes are left to that order.
-/

namespace HandlerRouting.RoutingTable
variable {h : Hierarchy} {t : RoutingTable} {asked narrow broad : Route}

/-- What stands above another candidate is not picked. -/
theorem not_best_of_level (names : t.NamesDistinct) (candidate : narrow ∈ t.candidates h asked)
    (lower : Precedence.level h asked.exception narrow <
      Precedence.level h asked.exception broad) : t.bestRoute h asked ≠ some broad := by
  intro chosen
  exact absurd lower ((picked_foremost names chosen).lowest narrow candidate).not_gt

/-- Let one media type narrow another of the same quality. Unless it is a suffixed wildcard below
one without a suffix, it is the more specific one; the other never is. And then, of two candidates
with these media types in any table, the one for the narrower is not passed over for the other. -/
theorem narrower_specific_and_preferred {a b : MediaType} (narrows : b.Narrows a)
    (quality : b.quality.place = a.quality.place) :
    (b.moreSpecific a = true ↔ ¬ b.SuffixedBelow a) ∧ a.moreSpecific b = false ∧
      (¬ b.SuffixedBelow a → ∀ (h : Hierarchy) (handlers : List Handler) (t : RoutingTable)
        (asked narrow broad : Route), build h handlers = .ok t →
          narrow ∈ t.candidates h asked → narrow.media = b → broad.media = a →
          h.distance asked.exception narrow.exception ≤
            h.distance asked.exception broad.exception →
          t.bestRoute h asked ≠ some broad) := by
  refine ⟨narrows.specific_iff quality, narrows.not_less_specific quality, ?_⟩
  rintro apart h handlers t asked narrow broad built candidate rfl rfl near
  apply not_best_of_level (names_distinct_of_build built) candidate
  have lower := narrows.rank_lt apart quality
  rcases near.lt_or_eq with nearer | same
  · exact (Precedence.level_lt_iff ..).mpr (Or.inl nearer)
  · exact (Precedence.level_lt_iff ..).mpr (Or.inr ⟨same, lower⟩)

def textHandlers : List Handler :=
  ["text/*", "text/plain"].map fun media =>
    { function := ⟨media, none⟩, exceptions := [.cls (Hierarchy.builtinPlace "ValueError")],
      mediaTypes := [.text media], name := media }

theorem plain_text_preferred :
    ∃ t, build Hierarchy.builtin textHandlers = .ok t ∧
      t.bestRoute Hierarchy.builtin ⟨Hierarchy.builtinPlace "ValueError", .textPlain⟩ ≠
        some ⟨Hierarchy.builtinPlace "ValueError", "text".toList, MediaType.wildcard, []⟩ := by
  let asked : Route := ⟨Hierarchy.builtinPlace "ValueError", .textPlain⟩
  obtain ⟨t, built, listed⟩ := exists_of_check Hierarchy.builtin textHandlers
    (fun t => (t.candidates Hierarchy.builtin asked).any fun route =>
      decide ((route.exception, route.media.type, route.media.subtype, route.media.parameters) =
        (asked.exception, asked.media.type, asked.media.subtype, []))) (by decide +kernel)
  obtain ⟨⟨exception, type, subtype, parameters⟩, candidate, same⟩ := List.any_eq_true.mp listed
  simp only [decide_eq_true_eq, Prod.mk.injEq] at same
  obtain ⟨rfl, rfl, rfl, rfl⟩ := same
  have preferred := (narrower_specific_and_preferred
    (a := ⟨"text".toList, MediaType.wildcard, []⟩) (b := .textPlain) (by decide) (by decide)).2.2
  exact ⟨t, built, preferred (by decide) _ _ t asked _ _ built candidate rfl rfl (Nat.le_refl _)⟩

/-- A wildcard with a suffix narrows one without, and is not more specific than it. -/
theorem suffixed_text_not_more_specific :
    ¬ ∀ a b : MediaType, a.Obtainable → b.Obtainable → a.quality.place = b.quality.place →
      a.includes b = true → b.includes a = false → b.moreSpecific a = true := by
  intro agrees
  have read : MediaType.parse "text/*" = .ok ⟨"text".toList, MediaType.wildcard, []⟩ := by
    decide
  have readToo : MediaType.parse "text/*+json" = .ok ⟨"text".toList, "*+json".toList, []⟩ := by
    decide
  have more := agrees _ _ (.parsed read) (.parsed readToo) (by decide) (by decide) (by decide)
  exact absurd more (by decide)

end HandlerRouting.RoutingTable
