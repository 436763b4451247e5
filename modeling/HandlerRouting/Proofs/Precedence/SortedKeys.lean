import HandlerRouting.Proofs.Precedence.Stability
import HandlerRouting.Proofs.Precedence.StrictOrder

/-!
Sorted candidates. Whatever their media types are, the distances of their classes never fall. Ties
need not be transitive; where they are, nothing stands in front of what comes before it, and
candidates that are tied keep their order.
-/

namespace HandlerRouting.Precedence
variable {ι : Type} {key : ι → Key} {items : List ι} {lineage : List ClassId}

theorem compare_keys_of_nearer {a b : Key}
    (nearer : a.type.placeIn lineage < b.type.placeIn lineage) :
    (compareKeys lineage a b == .lt) = true ∧ (compareKeys lineage b a == .lt) = false := by
  simp [compareKeys, compareAt, nearer, nearer.not_gt]

theorem weak_order_of_tied (given : ∀ a ∈ items, (key a).media.Obtainable)
    (ties : ∀ a ∈ items, ∀ b ∈ items, ∀ c ∈ items,
      compareKeys lineage (key a) (key b) = .eq → compareKeys lineage (key b) (key c) = .eq →
        compareKeys lineage (key a) (key c) = .eq) :
    Sort.WeakOrder (fun a b => compareKeys lineage (key a) (key b) == .lt) items := by
  apply Sort.weak_order_of_ties
  · intro a _ b _ first
    simp [compare_keys_swap lineage (key a) (key b), beq_iff_eq.mp first]
  · intro a ofA b ofB c _ first second
    rw [beq_iff_eq] at *
    exact compare_at_trans (given a ofA).names_distinct (given b ofB).names_distinct first second
  · intro a ofA b ofB c ofC first second
    have tied : compareKeys lineage (key a) (key c) = .eq :=
      ties a ofA b ofB c ofC ((compare_at_eq_iff ..).mpr first) ((compare_at_eq_iff ..).mpr second)
    exact (compare_at_eq_iff ..).mp tied

/-- Items sorted by their keys, for every class raised. They are the same items, by distances that
never fall. When all media types are ones that there are and ties among the items are transitive,
no later item comes before an earlier one, and all that are tied with an item stand in the order
that they had. Routes are sorted as their keys are. -/
theorem sort_keys_by_precedence (h : Hierarchy) (raised : ClassId) (key : ι → Key)
    (items : List ι) :
    let lineage := h.lineage raised
    let compared := fun a b => compareKeys lineage (key a) (key b)
    let sorted := Sort.sort (fun a b => compared a b == .lt) items
    (sorted.Perm items ∧ sorted.Pairwise fun a b =>
        (key a).type.placeIn lineage ≤ (key b).type.placeIn lineage) ∧
      ((∀ a ∈ items, (key a).media.Obtainable) →
        (∀ a ∈ items, ∀ b ∈ items, ∀ c ∈ items,
          compared a b = .eq → compared b c = .eq → compared a c = .eq) →
        (sorted.Pairwise fun a b => compared b a ≠ .lt) ∧
          ∀ a ∈ items, sorted.filter (fun b => compared a b == .eq) =
            items.filter fun b => compared a b == .eq) := by
  intro lineage compared sorted
  refine ⟨⟨Sort.sort_perm _ _, ?_⟩, ?_⟩
  · exact Sort.sort_measure_pairwise (fun a => (key a).type.placeIn lineage)
      fun _ _ _ _ nearer => compare_keys_of_nearer nearer
  · intro given ties
    have arranged := Sort.sort_arranged (fun a b => compared a b == .lt) items
    have weak := weak_order_of_tied given ties
    refine ⟨(arranged.in_order weak).imp fun stays comes => by simp [comes] at stays, ?_⟩
    intro a ofA
    apply arranged.filter weak
    intro b ofB c ofC tiedB tiedC
    rw [beq_iff_eq] at tiedB tiedC
    have back : compared b a = .eq :=
      (compare_keys_swap ..).trans (congrArg Ordering.swap tiedB)
    simp [ties b ofB a ofA c ofC back tiedC]

theorem zero_division_routes_keep_order :
    let page : Route := ⟨Hierarchy.builtinPlace "ArithmeticError", .textHtml⟩
    let text : Route := ⟨Hierarchy.builtinPlace "ArithmeticError", .textPlain⟩
    let items := [page, ⟨Hierarchy.builtinPlace "ZeroDivisionError", .all⟩, text]
    let compared := fun a b : Route => compareKeys
      (Hierarchy.builtin.lineage (Hierarchy.builtinPlace "ZeroDivisionError")) (.ofRoute a)
      (.ofRoute b)
    (Sort.sort (fun a b => compared a b == .lt) items).filter
      (fun route => compared page route == .eq) = [page, text] := by
  intro page text items compared
  have zeroDivision : Hierarchy.builtinPlace "ZeroDivisionError" = 38 := by decide +kernel
  have arithmetic : Hierarchy.builtinPlace "ArithmeticError" = 17 := by decide +kernel
  have lineage : Hierarchy.builtin.lineage 38 = [38, 17, 12, 1, 0] := by decide +kernel
  have sorted := (sort_keys_by_precedence Hierarchy.builtin
    (Hierarchy.builtinPlace "ZeroDivisionError") Key.ofRoute items).2
  simp only [items, compared, page, text, zeroDivision, arithmetic, lineage] at sorted ⊢
  refine ((sorted ?_ (by decide)).2 _ (List.mem_cons_self ..)).trans rfl
  refine List.forall_mem_cons.mpr
    ⟨?_, List.forall_mem_cons.mpr ⟨?_, List.forall_mem_singleton.mpr ?_⟩⟩
  · exact .parsed (show MediaType.parse "text/html" = _ by decide)
  · exact .parsed (show MediaType.parse "*/*" = _ by decide)
  · exact .parsed (show MediaType.parse "text/plain" = _ by decide)

end HandlerRouting.Precedence
