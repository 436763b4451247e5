import HandlerRouting.Proofs.Precedence.Levels
import HandlerRouting.Proofs.Router.Closest

/-!
When the most specific media type wins. What is picked stands on the lowest level, and among the
candidates of that level ties need not be transitive: two media types of one kind, of which one has
more parameters, are both tied with any other kind. Where that happens some order of the table's
entries lets the one with fewer parameters win; where it does not, no order does.
-/

namespace HandlerRouting

theorem exists_perm_of_map {α β : Type} (f : α → β) {items : List α} {images : List β}
    (order : images.Perm (items.map f)) :
    ∃ moved : List α, moved.Perm items ∧ moved.map f = images := by
  induction items generalizing images with
  | nil => exact ⟨[], .nil, by simpa using order.symm⟩
  | cons a rest ih =>
    obtain ⟨front, back, rfl⟩ := List.append_of_mem (order.symm.subset (List.mem_cons_self ..))
    obtain ⟨moved, others, parts⟩ := ih (List.perm_middle.symm.trans order).cons_inv
    obtain ⟨first, last, rfl, rfl, rfl⟩ := List.map_eq_append_iff.mp parts
    exact ⟨first ++ a :: last, List.perm_middle.trans (others.cons a), by simp⟩

theorem exists_sorted {α κ : Type} [LinearOrder κ] (key : α → κ) (items : List α) :
    ∃ sorted : List α, sorted.Perm items ∧ sorted.Pairwise fun a b => key a ≤ key b := by
  let early := fun a b => decide (key a ≤ key b)
  have trans : ∀ a b c, early a b = true → early b c = true → early a c = true := by
    intro a b c first second
    exact decide_eq_true ((of_decide_eq_true first).trans (of_decide_eq_true second))
  have total : ∀ a b, (early a b || early b a) = true := by
    intro a b
    simpa [early] using le_total (key a) (key b)
  refine ⟨items.mergeSort early, List.mergeSort_perm _ _, ?_⟩
  exact (List.pairwise_mergeSort trans total items).imp fun inOrder => of_decide_eq_true inOrder

namespace Precedence
variable (h : Hierarchy) (raised : ClassId) {a b : Route}

/-- Places in an order in which no route stands behind one that it comes before. Within a level one
kind of media type comes first, and then what has more parameters. -/
def place (first : MediaType) (route : Route) : (ℕ ×ₗ ℤ ×ₗ Bool ×ₗ Bool) ×ₗ Bool ×ₗ ℤ :=
  toLex (level h raised route,
    toLex (!decide (route.media.SameKind first), -(route.media.parameters.length : ℤ)))

theorem not_before_of_place_le {first : MediaType}
    (distinct : (Entries.keys b.media.parameters).Nodup)
    (ordered : place h raised first a ≤ place h raised first b) : before h raised b a = false := by
  rw [← Bool.not_eq_true, before_iff h raised distinct]
  rintro (lower | ⟨same, kind, more⟩)
  · exact absurd (Prod.Lex.toLex_lt_toLex.mpr (Or.inl lower)) ordered.not_gt
  · have alike : b.media.SameKind first ↔ a.media.SameKind first := ⟨kind.symm.trans, kind.trans⟩
    refine absurd ?_ ordered.not_gt
    simp only [place, Prod.Lex.toLex_lt_toLex, same, alike, true_and]
    right
    right
    omega

theorem same_kind_of_place_le (same : level h raised a = level h raised b)
    (ordered : place h raised b.media a ≤ place h raised b.media b) :
    a.media.SameKind b.media := by
  by_contra apart
  have itself : b.media.SameKind b.media := ⟨rfl, rfl⟩
  refine absurd ?_ ordered.not_gt
  simp [place, Prod.Lex.toLex_lt_toLex, same, apart, itself]

end Precedence

namespace RoutingTable
variable {t : RoutingTable} {h : Hierarchy} {asked picked other : Route}

/-- No candidate at the distance of the one that is picked is more specific. -/
def PicksMostSpecific (t : RoutingTable) (h : Hierarchy) (asked : Route) : Prop :=
  ∀ picked, t.bestRoute h asked = some picked → ∀ other ∈ t.candidates h asked,
    h.distance asked.exception other.exception = h.distance asked.exception picked.exception →
      other.media.moreSpecific picked.media = false

instance : Decidable (t.PicksMostSpecific h asked) :=
  inferInstanceAs (Decidable (∀ picked ∈ t.bestRoute h asked, ∀ other ∈ t.candidates h asked,
    h.distance asked.exception other.exception = h.distance asked.exception picked.exception →
      other.media.moreSpecific picked.media = false))

/-- A candidate on the lowest level. -/
structure Foremost (t : RoutingTable) (h : Hierarchy) (asked route : Route) : Prop where
  candidate : route ∈ t.candidates h asked
  lowest : ∀ other ∈ t.candidates h asked,
    Precedence.level h asked.exception route ≤ Precedence.level h asked.exception other

/-- The candidates on the lowest level are of one kind, or none of them has just more parameters
than another. -/
def Uncontested (t : RoutingTable) (h : Hierarchy) (asked : Route) : Prop :=
  (∀ a b, t.Foremost h asked a → t.Foremost h asked b → a.media.SameKind b.media) ∨
    ∀ a b, t.Foremost h asked a → t.Foremost h asked b → ¬ Precedence.Refines a b

def NamesDistinct (t : RoutingTable) : Prop :=
  ∀ route ∈ t.routes, (Entries.keys route.media.parameters).Nodup

theorem names_distinct_of_build {handlers : List Handler} (built : build h handlers = .ok t) :
    t.NamesDistinct := fun route listed => (build_sound built route listed).media.names_distinct

theorem NamesDistinct.candidate (names : t.NamesDistinct) (member : other ∈ t.candidates h asked) :
    (Entries.keys other.media.parameters).Nodup := names other ((mem_candidates_iff ..).mp member).1

theorem Foremost.level_eq {a b : Route} (first : t.Foremost h asked a)
    (second : t.Foremost h asked b) :
    Precedence.level h asked.exception a = Precedence.level h asked.exception b :=
  le_antisymm (first.lowest b second.candidate) (second.lowest a first.candidate)

theorem Foremost.of_level_le {a b : Route} (first : t.Foremost h asked a)
    (candidate : b ∈ t.candidates h asked)
    (low : Precedence.level h asked.exception b ≤ Precedence.level h asked.exception a) :
    t.Foremost h asked b :=
  ⟨candidate, fun other member => low.trans (first.lowest other member)⟩

section Picking

theorem picked_foremost (names : t.NamesDistinct) (chosen : t.bestRoute h asked = some picked) :
    t.Foremost h asked picked := by
  refine ⟨best_route_mem chosen, fun other candidate => ?_⟩
  apply Sort.sort_head_le (Precedence.level h asked.exception) _ chosen candidate
  intro a ofA b _ lower
  exact Precedence.separated_of_level _ _ (names.candidate ofA) lower

theorem refines_of_more_specific (names : t.NamesDistinct)
    (chosen : t.bestRoute h asked = some picked) (candidate : other ∈ t.candidates h asked)
    (near : h.distance asked.exception other.exception =
      h.distance asked.exception picked.exception)
    (more : other.media.moreSpecific picked.media = true) :
    t.Foremost h asked other ∧ Precedence.Refines other picked := by
  have foremost := picked_foremost names chosen
  rcases (MediaType.more_specific_iff ..).mp more with lower | ⟨same, refines⟩
  · have below := (Precedence.level_lt_iff h asked.exception other picked).mpr
      (Or.inr ⟨near, lower⟩)
    exact absurd below (foremost.lowest other candidate).not_gt
  · have level := (Precedence.level_eq_iff h asked.exception other picked).mpr ⟨near, same⟩
    exact ⟨foremost.of_level_le candidate level.le, refines⟩

theorem picks_of_uncontested (names : t.NamesDistinct) (uncontested : t.Uncontested h asked) :
    t.PicksMostSpecific h asked := by
  intro picked chosen other candidate near
  rw [← Bool.not_eq_true]
  intro more
  obtain ⟨high, refines⟩ := refines_of_more_specific names chosen candidate near more
  have foremost := picked_foremost names chosen
  rcases uncontested with oneKind | noneRefines
  · let level := Precedence.level h asked.exception
    -- Those with as many parameters as the other one has are cut off from all the rest.
    have cut : Sort.Cut (Precedence.before h asked.exception)
        (fun route => decide (level route ≤ level picked ∧
          other.media.parameters.length ≤ route.media.parameters.length))
        (t.candidates h asked) := by
      apply Sort.cut_of_separated
      intro a ofA b ofB inside outside
      obtain ⟨lowA, manyA⟩ := of_decide_eq_true inside
      by_cases lowB : level b ≤ level picked
      · have first := foremost.of_level_le ofA lowA
        have second := foremost.of_level_le ofB lowB
        have fewB : b.media.parameters.length < other.media.parameters.length := by
          apply not_le.mp
          intro manyB
          exact of_decide_eq_false outside ⟨lowB, manyB⟩
        exact Precedence.separated_of_refines _ _ (names.candidate ofA)
          (first.level_eq second) ⟨oneKind a b first second, by omega⟩
      · have lower : level a < level b := lt_of_le_of_lt lowA (not_le.mp lowB)
        exact Precedence.separated_of_level _ _ (names.candidate ofA) lower
    have many := Sort.sort_head_belongs cut chosen candidate
      (by simp [level, high.level_eq foremost])
    exact absurd refines.2 (of_decide_eq_true many).2.not_gt
  · exact noneRefines other picked high foremost refines

end Picking

section Contests

/-- The entries of a table can be moved so that its candidates stand in any order. -/
theorem exists_arrangement {order : List Route} (perm : order.Perm (t.candidates h asked)) :
    ∃ u : RoutingTable, u.entries.Perm t.entries ∧ u.candidates h asked = order := by
  let isCandidate := fun route : Route =>
    h.isSubclass asked.exception route.exception && route.media.overlaps asked.media
  have images : t.candidates h asked =
      (t.entries.filter fun entry => isCandidate entry.1).map Prod.fst := by
    simp only [candidates, routes, List.filter_map]
    rfl
  rw [images] at perm
  obtain ⟨moved, same, rfl⟩ := exists_perm_of_map Prod.fst perm
  let others := t.entries.filter fun entry => !isCandidate entry.1
  refine ⟨⟨moved ++ others⟩, (same.append_right others).trans (List.filter_append_perm _ _), ?_⟩
  have front : moved.filter (fun entry => isCandidate entry.1) = moved := by
    apply List.filter_eq_self.mpr
    intro entry member
    exact (List.mem_filter.mp (same.subset member)).2
  have back : others.filter (fun entry => isCandidate entry.1) = [] := by
    apply List.filter_eq_nil_iff.mpr
    intro entry member
    simpa using (List.mem_filter.mp member).2
  show List.filter isCandidate ((moved ++ others).map Prod.fst) = moved.map Prod.fst
  rw [List.filter_map]
  show ((moved ++ others).filter fun entry => isCandidate entry.1).map Prod.fst = _
  rw [List.filter_append, front, back, List.append_nil]

/-- Where the lowest level is contested, a candidate may stand first that another one refines, and
nothing after it breaks the rising run. -/
theorem exists_rising {y z : Route} (names : t.NamesDistinct) (ofY : t.Foremost h asked y)
    (ofZ : t.Foremost h asked z) (apart : ¬ z.media.SameKind y.media) :
    ∃ rest, (y :: rest).Perm (t.candidates h asked) ∧
      (y :: rest).IsChain fun a b => Precedence.before h asked.exception b a = false := by
  let place := Precedence.place h asked.exception z.media
  obtain ⟨front, back, parts⟩ := List.append_of_mem ofY.candidate
  obtain ⟨rest, perm, ordered⟩ := exists_sorted place (front ++ back)
  have whole : (y :: rest).Perm (t.candidates h asked) := by
    rw [parts]
    exact (perm.cons y).trans List.perm_middle.symm
  have member : ∀ r ∈ rest, r ∈ t.candidates h asked := fun r inside =>
    whole.subset (List.mem_cons_of_mem y inside)
  have inside : z ∈ rest := by
    have elsewhere : z ≠ y := fun same => apart (same ▸ ⟨rfl, rfl⟩)
    have anywhere : z ∈ front ++ y :: back := parts ▸ ofZ.candidate
    apply perm.mem_iff.mpr
    simpa [elsewhere] using anywhere
  refine ⟨rest, whole, List.isChain_cons.mpr ⟨?_, ?_⟩⟩
  · intro r head
    have candidate := member r (List.mem_of_head? head)
    have leads : place r ≤ place z := by
      obtain ⟨others, starts⟩ := List.head?_eq_some_iff.mp head
      rw [starts] at ordered inside
      rcases List.mem_cons.mp inside with rfl | later
      · exact le_refl _
      · exact List.rel_of_pairwise_cons ordered later
    rw [← Bool.not_eq_true, Precedence.before_iff _ _ (names.candidate candidate)]
    rintro (lower | ⟨same, kind, _⟩)
    · exact absurd lower (ofY.lowest r candidate).not_gt
    · have ofKind := Precedence.same_kind_of_place_le _ _ (same.trans (ofY.level_eq ofZ)) leads
      exact apart (ofKind.symm.trans kind)
  · have rises : rest.Pairwise fun a b => Precedence.before h asked.exception b a = false :=
      ordered.imp_of_mem fun _ ofB inOrder =>
        Precedence.not_before_of_place_le _ _ (names.candidate (member _ ofB)) inOrder
    exact rises.isChain

theorem exists_beaten (names : t.NamesDistinct) {x y z : Route} (ofX : t.Foremost h asked x)
    (ofY : t.Foremost h asked y) (ofZ : t.Foremost h asked z) (refines : Precedence.Refines x y)
    (apart : ¬ z.media.SameKind y.media) :
    ∃ u : RoutingTable, u.entries.Perm t.entries ∧ ¬ u.PicksMostSpecific h asked := by
  obtain ⟨rest, perm, rises⟩ := exists_rising names ofY ofZ apart
  obtain ⟨u, same, arranged⟩ := exists_arrangement perm
  refine ⟨u, same, ?_⟩
  intro picks
  have chosen : u.bestRoute h asked = some y := by
    rw [bestRoute, arranged, Sort.sort_of_rising rises]
    rfl
  have candidate : x ∈ u.candidates h asked := by
    rw [arranged]
    exact perm.mem_iff.mpr ofX.candidate
  obtain ⟨near, ranks⟩ := (Precedence.level_eq_iff ..).mp (ofX.level_eq ofY)
  have beaten := picks y chosen x candidate near
  rw [← Bool.not_eq_true, MediaType.more_specific_iff] at beaten
  exact beaten (Or.inr ⟨ranks, refines⟩)

/-- A contested level holds a candidate that another one refines, and one of another kind. -/
theorem exists_contest (contested : ¬ t.Uncontested h asked) :
    ∃ x y z, t.Foremost h asked x ∧ t.Foremost h asked y ∧ t.Foremost h asked z ∧
      Precedence.Refines x y ∧ ¬ z.media.SameKind y.media := by
  simp only [Uncontested, not_or, not_forall, not_not] at contested
  obtain ⟨⟨p, q, ofP, ofQ, differ⟩, x, y, ofX, ofY, refines⟩ := contested
  -- Of two different kinds one is not that of the refined candidate.
  by_cases alike : p.media.SameKind y.media
  · exact ⟨x, y, q, ofX, ofY, ofQ, refines, fun same => differ (alike.trans same.symm)⟩
  · exact ⟨x, y, p, ofX, ofY, ofP, refines, alike⟩

theorem uncontested_of_picks (names : t.NamesDistinct)
    (picks : ∀ u : RoutingTable, u.entries.Perm t.entries → u.PicksMostSpecific h asked) :
    t.Uncontested h asked := by
  by_contra contested
  obtain ⟨x, y, z, ofX, ofY, ofZ, refines, apart⟩ := exists_contest contested
  obtain ⟨u, same, beaten⟩ := exists_beaten names ofX ofY ofZ refines apart
  exact beaten (picks u same)

end Contests

section Orders
variable {u : RoutingTable}

theorem names_distinct_of_perm (names : t.NamesDistinct)
    (order : u.entries.Perm t.entries) : u.NamesDistinct :=
  fun route listed => names route ((order.map Prod.fst).mem_iff.mp listed)

theorem candidates_perm (order : u.entries.Perm t.entries) :
    (u.candidates h asked).Perm (t.candidates h asked) := (order.map Prod.fst).filter _

theorem foremost_perm (order : u.entries.Perm t.entries)
    (foremost : u.Foremost h asked other) : t.Foremost h asked other :=
  have perm := candidates_perm order
  ⟨perm.mem_iff.mp foremost.candidate, fun r member => foremost.lowest r (perm.mem_iff.mpr member)⟩

theorem Uncontested.perm (order : u.entries.Perm t.entries)
    (uncontested : t.Uncontested h asked) : u.Uncontested h asked := by
  rcases uncontested with oneKind | noneRefines
  · exact Or.inl fun a b ofA ofB => oneKind a b (foremost_perm order ofA) (foremost_perm order ofB)
  · exact Or.inr fun a b ofA ofB =>
      noneRefines a b (foremost_perm order ofA) (foremost_perm order ofB)

end Orders

/-- A built table picks a most specific candidate, however its entries are ordered, exactly when its
lowest level is not contested. In any case only a candidate that just has more parameters can be
more specific than the one that is picked. -/
theorem picks_most_specific_iff {handlers : List Handler} (built : build h handlers = .ok t)
    (asked : Route) :
    ((∀ u : RoutingTable, u.entries.Perm t.entries → u.PicksMostSpecific h asked) ↔
        t.Uncontested h asked) ∧
      ∀ picked other, t.bestRoute h asked = some picked → other ∈ t.candidates h asked →
        h.distance asked.exception other.exception =
          h.distance asked.exception picked.exception →
        other.media.moreSpecific picked.media = true →
          other.media.rank = picked.media.rank ∧ Precedence.Refines other picked := by
  have names := names_distinct_of_build built
  refine ⟨⟨uncontested_of_picks names, ?_⟩, ?_⟩
  · intro uncontested u order
    exact picks_of_uncontested (names_distinct_of_perm names order) (uncontested.perm order)
  · intro picked other chosen candidate near more
    obtain ⟨foremost, refines⟩ := refines_of_more_specific names chosen candidate near more
    have level := foremost.level_eq (picked_foremost names chosen)
    exact ⟨((Precedence.level_eq_iff ..).mp level).2, refines⟩

def pageHandlers : List Handler :=
  ["text/html", "text/plain", "text/html;level=1"].map fun media =>
    { function := ⟨media, none⟩, exceptions := [.cls (Hierarchy.builtinPlace "ValueError")],
      mediaTypes := [.text media], name := media }

def anyText : Route :=
  ⟨Hierarchy.builtinPlace "ValueError", ⟨"text".toList, MediaType.wildcard, []⟩⟩

theorem page_handlers_contested :
    ∃ t, build Hierarchy.builtin pageHandlers = .ok t ∧
      ¬ t.Uncontested Hierarchy.builtin anyText := by
  obtain ⟨t, built, beaten⟩ := exists_of_check Hierarchy.builtin pageHandlers
    (fun t => !decide (t.PicksMostSpecific Hierarchy.builtin anyText)) (by decide +kernel)
  refine ⟨t, built, ?_⟩
  intro uncontested
  have picks := (picks_most_specific_iff built anyText).1.mpr uncontested t (.refl _)
  simp [picks] at beaten

/-- Plain text stands between the two kinds of pages and is tied with both, so the pages without a
parameter stay first. -/
theorem page_with_parameter_loses :
    ∃ t, build Hierarchy.builtin pageHandlers = .ok t ∧
      ¬ t.PicksMostSpecific Hierarchy.builtin anyText := by
  obtain ⟨t, built, beaten⟩ := exists_of_check Hierarchy.builtin pageHandlers
    (fun t => !decide (t.PicksMostSpecific Hierarchy.builtin anyText)) (by decide +kernel)
  exact ⟨t, built, by simpa using beaten⟩

end RoutingTable

end HandlerRouting
