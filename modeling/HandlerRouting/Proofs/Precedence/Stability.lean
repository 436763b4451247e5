import HandlerRouting.Proofs.Precedence.Sorting

/-!
What a sort makes of a good comparison. A measure that the comparison respects never falls in the
sorted list, whatever else is compared. Where not coming before is transitive, no element comes
before one that it stands behind, and tied elements stay as they were: a merge takes from the right
only what comes before all that is left on the left, and a falling run holds no ties.
-/

namespace HandlerRouting.Sort
variable {α : Type} {before : α → α → Bool}

/-- A comparison under which not coming before is transitive among some elements. -/
structure WeakOrder (before : α → α → Bool) (items : List α) : Prop where
  asymm : ∀ a ∈ items, ∀ b ∈ items, before a b = true → before b a = false
  waits : ∀ a ∈ items, ∀ b ∈ items, ∀ c ∈ items,
    before b a = false → before c b = false → before c a = false

/-- No element comes before one that it stands behind. -/
def InOrder (before : α → α → Bool) (run : List α) : Prop :=
  run.Pairwise fun a b => before b a = false

section Orders
variable {items others : List α}

theorem weak_order_of_ties
    (asymm : ∀ a ∈ items, ∀ b ∈ items, before a b = true → before b a = false)
    (trans : ∀ a ∈ items, ∀ b ∈ items, ∀ c ∈ items,
      before a b = true → before b c = true → before a c = true)
    (ties : ∀ a ∈ items, ∀ b ∈ items, ∀ c ∈ items,
      before a b = false ∧ before b a = false → before b c = false ∧ before c b = false →
        before a c = false ∧ before c a = false) :
    WeakOrder before items := by
  refine ⟨asymm, fun a ofA b ofB c ofC first second => ?_⟩
  rw [← Bool.not_eq_true]
  intro back
  cases goes : before a b with
  | true =>
    -- From `c` by way of `a` to `b`.
    simp [trans c ofC a ofA b ofB back goes] at second
  | false =>
    cases goesOn : before b c with
    | true => simp [trans b ofB c ofC a ofA goesOn back] at first
    | false =>
      have tied := ties a ofA b ofB c ofC ⟨goes, first⟩ ⟨goesOn, second⟩
      simp [back] at tied

theorem WeakOrder.irrefl (weak : WeakOrder before items) {a : α} (ofA : a ∈ items) :
    before a a = false := by
  cases self : before a a with
  | false => rfl
  | true => simpa [self] using weak.asymm a ofA a ofA self

theorem WeakOrder.subset (weak : WeakOrder before items) (part : others ⊆ items) :
    WeakOrder before others :=
  ⟨fun a ofA b ofB => weak.asymm a (part ofA) b (part ofB),
    fun a ofA b ofB c ofC => weak.waits a (part ofA) b (part ofB) c (part ofC)⟩

theorem WeakOrder.flip (weak : WeakOrder before items) :
    WeakOrder (fun a b => before b a) items :=
  ⟨fun a ofA b ofB => weak.asymm b ofB a ofA,
    fun a ofA b ofB c ofC first second => weak.waits c ofC b ofB a ofA second first⟩

theorem InOrder.reverse {run : List α} (ordered : InOrder before run) :
    InOrder (fun a b => before b a) run.reverse :=
  List.pairwise_reverse.mpr ordered

end Orders

section Sorted
variable {items arranged : List α}

theorem pairwise_of_leads (within : α → α → Bool) {run : List α}
    (itself : ∀ b ∈ run, within b b = true) (leads : ∀ b ∈ run, Leads (within b) run) :
    run.Pairwise fun a b => within b a = true := by
  refine List.pairwise_iff_forall_sublist.mpr fun {a b} pair => ?_
  have ofB : b ∈ run := pair.subset (by simp)
  exact List.pairwise_iff_forall_sublist.mp (leads b ofB) pair (itself b ofB)

theorem sort_measure_pairwise {κ : Type} [LinearOrder κ] (measure : α → κ)
    (respected : ∀ a ∈ items, ∀ b ∈ items, measure a < measure b →
      before a b = true ∧ before b a = false) :
    (sort before items).Pairwise fun a b => measure a ≤ measure b := by
  have ordered : (sort before items).Pairwise fun a b => decide (measure a ≤ measure b) = true :=
    pairwise_of_leads (fun b a => decide (measure a ≤ measure b)) (by simp)
      fun b _ => sort_leads (cut_by_measure measure respected (measure b))
  exact ordered.imp of_decide_eq_true

theorem WeakOrder.cut (weak : WeakOrder before items) {x : α} (ofX : x ∈ items) :
    Cut before (fun a => !before x a) items := by
  apply cut_of_separated
  intro a ofA b ofB first second
  simp only [Bool.not_eq_true', Bool.not_eq_false'] at first second
  have goes : before a b = true := by
    rw [← Bool.not_eq_false]
    intro stays
    simp [weak.waits b ofB a ofA x ofX stays first] at second
  exact ⟨goes, weak.asymm a ofA b ofB goes⟩

theorem Arranged.in_order (given : Arranged before items arranged)
    (weak : WeakOrder before items) : InOrder before arranged := by
  have member : ∀ b ∈ arranged, b ∈ items := fun b => given.perm.mem_iff.mp
  have ordered := pairwise_of_leads (fun b a => !before b a)
    (fun b ofB => by simp [weak.irrefl (member b ofB)])
    fun b ofB => given.leads (weak.cut (member b ofB))
  exact ordered.imp fun stays => by simpa using stays

end Sorted

section Stable
variable {keeps : α → Bool}

/-- No two of the elements that are kept come one before the other. -/
def Tied (before : α → α → Bool) (keeps : α → Bool) (items : List α) : Prop :=
  ∀ a ∈ items, ∀ b ∈ items, keeps a = true → keeps b = true → before a b = false

theorem Tied.subset {items others : List α} (tied : Tied before keeps items)
    (part : others ⊆ items) : Tied before keeps others :=
  fun a ofA b ofB => tied a (part ofA) b (part ofB)

theorem Tied.flip {items : List α} (tied : Tied before keeps items) :
    Tied (fun a b => before b a) keeps items :=
  fun a ofA b ofB keptA keptB => tied b ofB a ofA keptB keptA

theorem InOrder.head_first {a : α} {run : List α} (ordered : InOrder before (a :: run))
    (weak : WeakOrder before (a :: run)) : ∀ v ∈ a :: run, before v a = false := by
  intro v ofV
  rcases List.mem_cons.mp ofV with rfl | later
  · exact weak.irrefl ofV
  · exact List.rel_of_pairwise_cons ordered later

theorem InOrder.last_last {y : α} {run : List α} (ordered : InOrder before (run ++ [y]))
    (weak : WeakOrder before (run ++ [y])) : ∀ u ∈ run ++ [y], before y u = false := by
  intro u ofU
  rcases List.mem_append.mp ofU with earlier | last
  · exact (List.pairwise_append.mp ordered).2.2 u earlier y (by simp)
  · rw [List.mem_singleton.mp last]
    exact weak.irrefl (by simp)

theorem Tied.apart {a y : α} {left taken : List α}
    (tied : Tied before keeps (a :: left ++ (taken ++ [y])))
    (weak : WeakOrder before (a :: left ++ (taken ++ [y]))) (lefts : InOrder before (a :: left))
    (rights : InOrder before (taken ++ [y])) (passes : before y a = true) :
    (a :: left).filter keeps = [] ∨ (taken ++ [y]).filter keeps = [] := by
  have first := lefts.head_first (weak.subset (List.subset_append_left ..))
  have last := rights.last_last (weak.subset (List.subset_append_right ..))
  by_contra both
  simp only [not_or, List.filter_eq_nil_iff, not_forall, not_not] at both
  obtain ⟨⟨v, inLeft, keptV⟩, u, inTaken, keptU⟩ := both
  have ofV : v ∈ a :: left ++ (taken ++ [y]) := List.mem_append_left _ inLeft
  have ofU : u ∈ a :: left ++ (taken ++ [y]) := List.mem_append_right _ inTaken
  -- `a` stays in front of `v`, `v` of `u` and `u` of `y`, so `y` cannot pass `a`.
  have near := weak.waits a (by simp) v ofV u ofU (first v inLeft) (tied u ofU v ofV keptU keptV)
  have far := weak.waits a (by simp) u ofU y (by simp) near (last u inTaken)
  simp [far] at passes

theorem Merged.filter {left right merged : List α} (meets : Merged before left right merged)
    (weak : WeakOrder before (left ++ right)) (lefts : InOrder before left)
    (rights : InOrder before right) (tied : Tied before keeps (left ++ right)) :
    merged.filter keeps = left.filter keeps ++ right.filter keeps := by
  induction meets with
  | left_over left => simp
  | right_over right => simp
  | @take_left x b left right merged taken held rest ih =>
    have part : left ++ b :: right ⊆ taken ++ x :: left ++ b :: right := by
      intro c
      simp only [List.mem_append, List.mem_cons]
      tauto
    have behind := (List.pairwise_cons.mp (List.pairwise_append.mp lefts).2.1).2
    have later := ih (weak.subset part) behind rights (tied.subset part)
    rw [List.append_cons taken x merged, List.append_cons taken x left, List.filter_append, later,
      List.filter_append (taken ++ [x]) left, List.append_assoc]
  | @take_right a y left right merged taken passes rest ih =>
    have part : a :: left ++ right ⊆ a :: left ++ (taken ++ y :: right) := by
      intro c
      simp only [List.mem_append, List.mem_cons]
      tauto
    have front : a :: left ++ (taken ++ [y]) ⊆ a :: left ++ (taken ++ y :: right) := by
      intro c
      simp only [List.mem_append, List.mem_cons]
      tauto
    rw [← List.singleton_append, ← List.append_assoc] at rights
    obtain ⟨taking, behind, _⟩ := List.pairwise_append.mp rights
    have later := ih (weak.subset part) lefts behind (tied.subset part)
    rw [List.append_cons taken y merged, List.append_cons taken y right, List.filter_append, later,
      List.filter_append (taken ++ [y]) right]
    rcases (tied.subset front).apart (weak.subset front) lefts taking passes with none | none
    · rw [none]
      simp
    · rw [none]
      simp

/-- A falling run holds no two tied elements, so it can be turned round. -/
theorem filter_falling {run : List α} (falls : run.IsChain fun a b => before b a = true)
    (rests : run.Pairwise fun a b => before a b = false) (weak : WeakOrder before run)
    (tied : Tied before keeps run) : run.reverse.filter keeps = run.filter keeps := by
  induction run with
  | nil => rfl
  | cons a rest ih =>
    obtain ⟨near, behind⟩ := List.isChain_cons.mp falls
    obtain ⟨_, restsBehind⟩ := List.pairwise_cons.mp rests
    have part : rest ⊆ a :: rest := List.subset_cons_self a rest
    have later := ih behind restsBehind (weak.subset part) (tied.subset part)
    rw [List.reverse_cons, List.filter_append, later]
    cases kept : keeps a with
    | false => simp [kept]
    | true =>
      have none : rest.filter keeps = [] := by
        cases rest with
        | nil => rfl
        | cons c rest =>
          refine List.filter_eq_nil_iff.mpr fun v ofV keptV => ?_
          have highest : before c v = false := by
            rcases List.mem_cons.mp ofV with rfl | further
            · exact weak.irrefl (part ofV)
            · exact List.rel_of_pairwise_cons restsBehind further
          have stays := weak.waits a (by simp) v (part ofV) c (by simp)
            (tied v (part ofV) a (by simp) keptV kept) highest
          simp [near c (by simp)] at stays
      simp [kept, none]

theorem Arranged.filter {items arranged : List α} (given : Arranged before items arranged)
    (weak : WeakOrder before items) (tied : Tied before keeps items) :
    arranged.filter keeps = items.filter keeps := by
  induction given with
  | rising _ => rfl
  | falling falls =>
    have ordered := (Arranged.falling falls).in_order weak
    exact filter_falling falls (List.pairwise_reverse.mp ordered) weak tied
  | @forward left right leftRun rightRun merged first second meets ihFirst ihSecond =>
    have weakLeft := weak.subset (List.subset_append_left left right)
    have weakRight := weak.subset (List.subset_append_right left right)
    have members : leftRun ++ rightRun ⊆ left ++ right := (first.perm.append second.perm).subset
    rw [meets.filter (weak.subset members) (first.in_order weakLeft) (second.in_order weakRight)
      (tied.subset members), ihFirst weakLeft (tied.subset (List.subset_append_left left right)),
      ihSecond weakRight (tied.subset (List.subset_append_right left right)), List.filter_append]
  | @backward left right leftRun rightRun merged first second meets ihFirst ihSecond =>
    have weakLeft := weak.subset (List.subset_append_left left right)
    have weakRight := weak.subset (List.subset_append_right left right)
    have members : rightRun.reverse ++ leftRun.reverse ⊆ left ++ right := by
      rw [← List.reverse_append]
      exact ((List.reverse_perm _).trans (first.perm.append second.perm)).subset
    have turned := meets.filter (weak.flip.subset members) (second.in_order weakRight).reverse
      (first.in_order weakLeft).reverse (tied.flip.subset members)
    rw [List.filter_reverse, turned, List.reverse_append, ← List.filter_reverse,
      ← List.filter_reverse, List.reverse_reverse, List.reverse_reverse,
      ihFirst weakLeft (tied.subset (List.subset_append_left left right)),
      ihSecond weakRight (tied.subset (List.subset_append_right left right)), List.filter_append]

end Stable

end HandlerRouting.Sort
