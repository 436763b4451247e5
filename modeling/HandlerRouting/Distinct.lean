/-!
Distinct: the first occurrences of a list's elements, in order. In a list of distinct elements each
has one place.
-/

namespace HandlerRouting
variable {α : Type} [BEq α]

def firstsAfter (seen : List α) : List α → List α
  | [] => []
  | a :: rest =>
    if seen.any (· == a) then firstsAfter seen rest else a :: firstsAfter (a :: seen) rest

def distinct (items : List α) : List α := firstsAfter [] items

theorem mem_firsts_after [LawfulBEq α] (a : α) (seen items : List α) :
    a ∈ firstsAfter seen items ↔ a ∈ items ∧ a ∉ seen := by
  induction items generalizing seen with
  | nil => simp [firstsAfter]
  | cons b rest ih =>
    by_cases met : b ∈ seen
    · have known : seen.any (· == b) = true := List.any_eq_true.mpr ⟨b, met, by simp⟩
      simp only [firstsAfter, known, ↓reduceIte, ih, List.mem_cons]
      constructor
      · rintro ⟨member, absent⟩
        exact ⟨Or.inr member, absent⟩
      · rintro ⟨rfl | member, absent⟩
        · exact absurd met absent
        · exact ⟨member, absent⟩
    · have unknown : ¬ seen.any (· == b) = true := by
        simp only [List.any_eq_true, beq_iff_eq, not_exists, not_and]
        rintro c member rfl
        exact met member
      simp only [firstsAfter, unknown, Bool.false_eq_true, ↓reduceIte, List.mem_cons, ih,
        not_or]
      constructor
      · rintro (rfl | ⟨member, _, absent⟩)
        · exact ⟨Or.inl rfl, met⟩
        · exact ⟨Or.inr member, absent⟩
      · rintro ⟨rfl | member, absent⟩
        · exact Or.inl rfl
        · by_cases same : a = b
          · exact Or.inl same
          · exact Or.inr ⟨member, same, absent⟩

theorem firsts_after_sublist (seen items : List α) : (firstsAfter seen items).Sublist items := by
  induction items generalizing seen with
  | nil => exact List.Sublist.slnil
  | cons a rest ih =>
    unfold firstsAfter
    split
    · exact (ih seen).cons a
    · exact (ih (a :: seen)).cons_cons a

theorem distinct_sublist (items : List α) : (distinct items).Sublist items :=
  firsts_after_sublist [] items

theorem mem_distinct [LawfulBEq α] (a : α) (items : List α) : a ∈ distinct items ↔ a ∈ items := by
  simp [distinct, mem_firsts_after]

theorem distinct_eq_nil_iff [LawfulBEq α] (items : List α) : distinct items = [] ↔ items = [] := by
  simp only [List.eq_nil_iff_forall_not_mem, mem_distinct]

/-- Only which elements were seen matters, not in which order. -/
theorem firsts_after_congr {seen others : List α} (items : List α)
    (alike : ∀ a, seen.any (· == a) = others.any (· == a)) :
    firstsAfter seen items = firstsAfter others items := by
  induction items generalizing seen others with
  | nil => rfl
  | cons a rest ih =>
    have further : ∀ b, (a :: seen).any (· == b) = (a :: others).any (· == b) :=
      fun b => by simp only [List.any_cons, alike b]
    simp only [firstsAfter, alike a, ih alike, ih further]

theorem firsts_after_append_of_trans
    (trans : ∀ a b c : α, (a == b) = true → (b == c) = true → (a == c) = true)
    (seen front back : List α) :
    firstsAfter seen (front ++ back) =
      firstsAfter seen front ++ firstsAfter (seen ++ front) back := by
  induction front generalizing seen with
  | nil => simp [firstsAfter]
  | cons a rest ih =>
    by_cases met : seen.any (· == a) = true
    · simp only [List.cons_append, firstsAfter, if_pos met, ih seen]
      refine congrArg _ (firsts_after_congr back fun b => ?_)
      -- What equals `a` equals what was seen before it.
      obtain ⟨earlier, member, same⟩ := List.any_eq_true.mp met
      simp only [List.any_append, List.any_cons]
      cases equal : a == b with
      | false => simp
      | true =>
        have known : seen.any (· == b) = true :=
          List.any_eq_true.mpr ⟨earlier, member, trans _ _ _ same equal⟩
        simp [known]
    · simp only [List.cons_append, firstsAfter, if_neg met, ih (a :: seen)]
      refine congrArg _ (congrArg _ (firsts_after_congr back fun b => ?_))
      simp only [List.any_cons, List.any_append]
      ac_rfl

theorem firsts_after_append [EquivBEq α] (seen front back : List α) :
    firstsAfter seen (front ++ back) =
      firstsAfter seen front ++ firstsAfter (seen ++ front) back :=
  firsts_after_append_of_trans (fun _ _ _ => BEq.trans) seen front back

theorem firsts_after_skip {seen items : List α} (known : ∀ a ∈ items, seen.any (· == a) = true)
    (back : List α) : firstsAfter seen (items ++ back) = firstsAfter seen back := by
  induction items with
  | nil => rfl
  | cons a rest ih =>
    rw [List.cons_append, firstsAfter, if_pos (known a (by simp))]
    exact ih fun b member => known b (by simp [member])

theorem firsts_after_of_seen {seen items : List α}
    (known : ∀ a ∈ items, seen.any (· == a) = true) : firstsAfter seen items = [] := by
  simpa [firstsAfter] using firsts_after_skip known []

/-- Of several items only one counts when all others have been seen. -/
theorem firsts_after_absorb [ReflBEq α] {seen items : List α} {x : α} (listed : x ∈ items)
    (known : ∀ a ∈ items, a = x ∨ seen.any (· == a) = true) (back : List α) :
    firstsAfter seen (items ++ back) = firstsAfter seen (x :: back) := by
  by_cases met : seen.any (· == x) = true
  · have all : ∀ a ∈ items, seen.any (· == a) = true := by
      intro a member
      rcases known a member with rfl | seen
      · exact met
      · exact seen
    rw [firsts_after_skip all, firstsAfter, if_pos met]
  · induction items with
    | nil => cases listed
    | cons a rest ih =>
      obtain ⟨here, behind⟩ := List.forall_mem_cons.mp known
      by_cases own : a = x
      · subst own
        have later : ∀ b ∈ rest, (a :: seen).any (· == b) = true := by
          intro b member
          rcases behind b member with rfl | seen
          · simp
          · simp [seen]
        rw [List.cons_append, firstsAfter, if_neg met, firsts_after_skip later, firstsAfter,
          if_neg met]
      · have seenHere := here.resolve_left own
        rw [List.cons_append, firstsAfter, if_pos seenHere]
        exact ih ((List.mem_cons.mp listed).resolve_left (Ne.symm own)) behind

theorem firsts_after_apart (seen items : List α) :
    (∀ a ∈ firstsAfter seen items, seen.any (· == a) = false) ∧
      (firstsAfter seen items).Pairwise fun a b => (a == b) = false := by
  induction items generalizing seen with
  | nil => simp [firstsAfter]
  | cons a rest ih =>
    by_cases met : seen.any (· == a) = true
    · rw [firstsAfter, if_pos met]
      exact ih seen
    · rw [firstsAfter, if_neg met]
      obtain ⟨new, apart⟩ := ih (a :: seen)
      simp only [List.any_cons, Bool.or_eq_false_iff] at new
      refine ⟨List.forall_mem_cons.mpr ⟨by simpa using met, fun b kept => (new b kept).2⟩, ?_⟩
      exact List.pairwise_cons.mpr ⟨fun b kept => (new b kept).1, apart⟩

theorem distinct_apart (items : List α) :
    (distinct items).Pairwise fun a b => (a == b) = false := (firsts_after_apart [] items).2

theorem exists_first_after [ReflBEq α] {a : α} {items : List α} (listed : a ∈ items)
    (seen : List α) :
    seen.any (· == a) = true ∨ ∃ b ∈ firstsAfter seen items, (b == a) = true := by
  induction items generalizing seen with
  | nil => cases listed
  | cons b rest ih =>
    by_cases met : seen.any (· == b) = true
    · rw [firstsAfter, if_pos met]
      rcases List.mem_cons.mp listed with rfl | behind
      · exact Or.inl met
      · exact ih behind seen
    · rw [firstsAfter, if_neg met]
      rcases List.mem_cons.mp listed with rfl | behind
      · exact Or.inr ⟨a, List.mem_cons_self, BEq.rfl⟩
      · rcases ih behind (b :: seen) with known | ⟨c, kept, same⟩
        · rcases Bool.or_eq_true .. ▸ known with same | before
          · exact Or.inr ⟨b, List.mem_cons_self, same⟩
          · exact Or.inl before
        · exact Or.inr ⟨c, List.mem_cons_of_mem _ kept, same⟩

theorem exists_distinct [ReflBEq α] {a : α} {items : List α} (listed : a ∈ items) :
    ∃ b ∈ distinct items, (b == a) = true := by
  simpa [distinct] using exists_first_after listed []

/-- What is kept comes after nothing that equals it. -/
theorem exists_before_of_mem_firsts_after
    (trans : ∀ a b c : α, (a == b) = true → (b == c) = true → (a == c) = true) {a : α}
    {seen items : List α} (kept : a ∈ firstsAfter seen items) :
    ∃ front back, items = front ++ a :: back ∧ (seen ++ front).any (· == a) = false := by
  induction items generalizing seen with
  | nil => cases kept
  | cons b rest ih =>
    by_cases met : seen.any (· == b) = true
    · rw [firstsAfter, if_pos met] at kept
      obtain ⟨front, back, rfl, new⟩ := ih kept
      refine ⟨b :: front, back, rfl, ?_⟩
      have other : (b == a) = false := by
        rw [← Bool.not_eq_true]
        intro same
        obtain ⟨c, earlier, equal⟩ := List.any_eq_true.mp met
        have known : (seen ++ front).any (· == a) = true :=
          List.any_eq_true.mpr ⟨c, by simp [earlier], trans c b a equal same⟩
        simp [known] at new
      simpa [other] using new
    · rw [firstsAfter, if_neg met] at kept
      rcases List.mem_cons.mp kept with rfl | behind
      · exact ⟨[], rest, rfl, by simpa using met⟩
      · obtain ⟨front, back, rfl, new⟩ := ih behind
        refine ⟨b :: front, back, rfl, ?_⟩
        simp only [List.any_append, List.any_cons] at new ⊢
        rw [← new]
        ac_rfl

theorem firsts_after_map {β : Type} [BEq β] (f : β → α)
    (faithful : ∀ x y, (f x == f y) = (x == y)) (seen : List α) (others items : List β)
    (alike : ∀ x, seen.any (· == f x) = others.any (· == x)) :
    firstsAfter seen (items.map f) = (firstsAfter others items).map f := by
  induction items generalizing seen others with
  | nil => rfl
  | cons x rest ih =>
    have further : ∀ y, (f x :: seen).any (· == f y) = (x :: others).any (· == y) :=
      fun y => by simp only [List.any_cons, faithful, alike y]
    simp only [List.map_cons, firstsAfter, alike x, ih seen others alike, ih _ _ further]
    split <;> simp

theorem idx_of_pairwise [LawfulBEq α] {items : List α} (distinct : items.Nodup) :
    items.Pairwise fun a b => items.idxOf a < items.idxOf b := by
  rw [List.pairwise_iff_getElem]
  intro i j left right earlier
  rw [distinct.idxOf_getElem i left, distinct.idxOf_getElem j right]
  exact earlier

theorem idx_of_lt_of_sublist [LawfulBEq α] {a b : α} {items : List α} (distinct : items.Nodup)
    (order : [a, b].Sublist items) : items.idxOf a < items.idxOf b := by
  simpa using (idx_of_pairwise distinct).sublist order

end HandlerRouting
