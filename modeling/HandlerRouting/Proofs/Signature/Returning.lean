import HandlerRouting.Proofs.Signature.Hints
import HandlerRouting.Signature.Returning

/-!
What the annotation of a function's result has to do with the types of its parameters. It can get
all annotations stuck; then those of the parameters count as they are written.
-/

namespace HandlerRouting

namespace TypeExpr

theorem exists_unsettled_member {h : Hierarchy} {t : TypeExpr} (formed : t.Formed)
    (needed : ¬ t.StandsForItself h) : ∃ u ∈ t.members, u = none ∨ ¬ u.settled h = true := by
  by_cases value : t = none
  · exact ⟨none, by simp [value, members], .inl rfl⟩
  · have unsettled : ¬ ∀ u ∈ t.flat, u.settled h = true :=
      fun settled => needed ⟨value, (settled_iff_flat t).mpr settled⟩
    simp only [not_forall] at unsettled
    obtain ⟨u, inside, unsettled⟩ := unsettled
    refine ⟨u, (mem_members_of_formed formed).mpr ⟨inside, ?_⟩, .inr unsettled⟩
    rintro rfl
    exact unsettled rfl

end TypeExpr

namespace Signature
variable {h : Hierarchy} {s : Signature} {m : TypeMemory}

theorem cls_shown_iff (c : ClassId) :
    .cls c ∈ s.parameterTypes h m ↔ ∃ hint ∈ s.hints h m, hint.Lists (.cls c) := by
  constructor
  · exact exists_hint_of_kept
  · rintro ⟨hint, among, lists⟩
    obtain ⟨t, shown, same⟩ := exists_kept among lists
    exact (TypeExpr.same_cls_iff c t).mp same ▸ shown

/-! ## Stuck and looked up -/

theorem not_stuck_iff : ¬ s.Stuck h m ↔ ∃ found, (s.evaluated h m).1 = some found := by
  rw [Stuck, ← ne_eq, Option.ne_none_iff_exists']

section Looked
variable (sound : m.Sound) (formed : s.Formed)

include sound formed

theorem hints_of_standing (standing : ∀ t ∈ s.annotations, t.StandsForItself h) :
    s.hints h m = s.annotations := by
  by_cases stuck : s.Stuck h m
  · exact hints_of_unresolved stuck
  · obtain ⟨found, evaluated⟩ := not_stuck_iff.mp stuck
    obtain ⟨_, _, looked⟩ := hints_looked_up sound formed evaluated
    have own : s.annotations.map TypeExpr.asAnnotation = s.annotations := by
      refine (List.map_congr_left fun t among => ?_).trans (List.map_id _)
      exact TypeExpr.as_annotation_of_standing (standing t among)
    rw [own, TypeExpr.resolve_all_settled fun t among => (standing t among).2] at looked
    exact (Option.some.inj (Prod.mk.inj looked).1).symm

theorem parameter_types_formed : ∀ t ∈ s.parameterTypes h m, t.Formed := by
  intro t shown
  obtain ⟨hint, among, lists⟩ := exists_hint_of_kept shown
  by_cases stuck : s.Stuck h m
  · rw [hints_of_unresolved stuck] at among
    exact ((formed.annotations hint among).of_lists lists).2
  · obtain ⟨found, evaluated⟩ := not_stuck_iff.mp stuck
    exact ((hints_joinable sound formed evaluated hint among).formed.of_lists lists).2

theorem cls_shown_of_written {t : TypeExpr} (among : t ∈ s.annotations) {c : ClassId}
    (lists : t.Lists (.cls c)) : .cls c ∈ s.parameterTypes h m := by
  rw [cls_shown_iff]
  by_cases stuck : s.Stuck h m
  · exact ⟨t, hints_of_unresolved stuck ▸ among, lists⟩
  · obtain ⟨found, evaluated⟩ := not_stuck_iff.mp stuck
    have each := hints_meanings sound formed evaluated
    obtain ⟨hint, there, meaning⟩ := exists_related each.flip among
    have value : t ≠ .none := by
      rintro rfl
      cases lists
    have inside := meaning.classes c (by
      rw [TypeExpr.as_annotation_eq, TypeExpr.member_of_bar value]
      exact ((formed.annotations t among).of_lists lists).1)
    have member := (TypeExpr.mem_members_of_formed meaning.formed).mpr ⟨inside, lists.single.2⟩
    exact ⟨hint, there, (TypeExpr.mem_members_iff hint _).mp member⟩

/-- What is shown as it is written, with nothing to be looked up, needed no looking up. -/
theorem standing_of_shown (stuck : s.Stuck h m)
    (standing : ∀ t ∈ s.parameterTypes h m, t.StandsForItself h) :
    ∀ t ∈ s.annotations, t.StandsForItself h := by
  intro t among
  by_contra needed
  obtain ⟨u, member, lacking⟩ :=
    TypeExpr.exists_unsettled_member (formed.annotations t among) needed
  rw [← hints_of_unresolved stuck] at among
  obtain ⟨v, kept, near⟩ := exists_kept among ((TypeExpr.mem_members_iff t u).mp member)
  obtain ⟨value, looked⟩ := standing v kept
  rcases lacking with rfl | unsettled
  · exact value ((TypeExpr.same_none_iff v).mp near)
  · have back := (parameter_types_formed sound formed v kept).same_symm near
    exact unsettled (TypeExpr.settled_of_same back looked)

end Looked

theorem types_of_stuck (stuck : s.Stuck h m) : s.parameterTypes h m = s.written := by
  rw [parameterTypes, hints_of_unresolved stuck, written]

theorem written_of_stuck (stuck : s.Stuck h m) {c : ClassId}
    (shown : .cls c ∈ s.parameterTypes h m) : ∃ t ∈ s.annotations, t.Lists (.cls c) := by
  rw [cls_shown_iff, hints_of_unresolved stuck] at shown
  exact shown

theorem standing_of_same {ts us : List TypeExpr} (same : TypeExpr.sameAll ts us = true)
    (standing : ∀ u ∈ us, u.StandsForItself h) : ∀ t ∈ ts, t.StandsForItself h := by
  intro t among
  obtain ⟨u, there, near⟩ := exists_related ((TypeExpr.same_all_iff ..).mp same).flip among
  obtain ⟨value, settled⟩ := standing u there
  refine ⟨?_, TypeExpr.settled_of_same near settled⟩
  rintro rfl
  exact value ((TypeExpr.none_same_iff u).mp near)

theorem mem_declared_classes {a : Handler} {types : List TypeExpr} (goes : a.GoesBy types)
    (c : ClassId) : c ∈ a.declaredClasses h ↔ .cls c ∈ types ∧ h.isExceptionClass c = true := by
  have coverage : a.coverage = types := by simp [Handler.coverage, goes.silent, goes.shown]
  rw [Handler.declaredClasses, coverage, List.mem_filterMap]
  constructor
  · rintro ⟨t, shown, found⟩
    cases t with
    | cls id =>
      simp only [TypeExpr.exceptionClass?, Option.ite_none_right_eq_some, Option.some.injEq]
        at found
      obtain ⟨exception, rfl⟩ := found
      exact ⟨shown, exception⟩
    | _ => cases found
  · rintro ⟨shown, exception⟩
    exact ⟨.cls c, shown, by simp [TypeExpr.exceptionClass?, exception]⟩

/-! ## Two results -/

section Results
variable {n : TypeMemory} {one other : Option TypeExpr}

section Asked
variable (sound : m.Sound) (soundToo : n.Sound) (formed : (s.returning one).Formed)
  (formedToo : (s.returning other).Formed)

include sound soundToo formed formedToo

theorem hints_of_returning (later : n = m ∨ ((s.returning one).evaluated h m).2.Within n)
    (alike : (s.returning one).Stuck h m ↔ (s.returning other).Stuck h n) :
    (s.returning one).hints h m = (s.returning other).hints h n := by
  by_cases stuck : (s.returning one).Stuck h m
  · rw [hints_of_unresolved stuck, hints_of_unresolved (alike.mp stuck)]
    rfl
  · obtain ⟨_, evaluated⟩ := not_stuck_iff.mp stuck
    obtain ⟨_, evaluatedToo⟩ := not_stuck_iff.mp fun also => stuck (alike.mpr also)
    rcases later with rfl | within
    · obtain ⟨_, _, looked⟩ := hints_looked_up sound formed evaluated
      obtain ⟨_, _, lookedToo⟩ := hints_looked_up sound formedToo evaluatedToo
      exact Option.some.inj (Prod.mk.inj (looked.symm.trans lookedToo)).1
    · have again : (s.returning other).hints h n = (s.returning one).hints h m :=
        hints_again sound formed evaluated rfl rfl formedToo soundToo within evaluatedToo
      exact again.symm

theorem alike_of_standing (standing : ∀ t ∈ s.annotations, t.StandsForItself h) :
    TypeExpr.sameAll ((s.returning one).parameterTypes h m)
      ((s.returning other).parameterTypes h n) = true := by
  have first : (s.returning one).hints h m = s.annotations :=
    hints_of_standing sound formed standing
  have second : (s.returning other).hints h n = s.annotations :=
    hints_of_standing soundToo formedToo standing
  rw [parameterTypes, parameterTypes, first, second]
  exact TypeExpr.same_all_refl _

/-- Where one of the functions is stuck and the other is not, equal types are those of annotations
that need no looking up, unless names are left in them. -/
theorem standing_of_alike
    (differ : ¬ ((s.returning one).Stuck h m ↔ (s.returning other).Stuck h n))
    (same : TypeExpr.sameAll ((s.returning one).parameterTypes h m)
      ((s.returning other).parameterTypes h n) = true)
    (settled : (∀ t ∈ (s.returning one).parameterTypes h m, t.StandsForItself h) ∨
      ∀ t ∈ (s.returning other).parameterTypes h n, t.StandsForItself h) :
    ∀ t ∈ s.annotations, t.StandsForItself h := by
  have back := TypeExpr.same_all_symm (parameter_types_formed sound formed) same
  by_cases stuck : (s.returning one).Stuck h m
  · refine standing_of_shown (s := s.returning one) sound formed stuck ?_
    exact settled.elim id (standing_of_same same)
  · have also : (s.returning other).Stuck h n := by
      by_contra free
      exact differ (iff_of_false stuck free)
    refine standing_of_shown (s := s.returning other) soundToo formedToo also ?_
    exact settled.elim (standing_of_same back) id

end Asked

section Compared
variable (sound : m.Sound) (soundToo : n.Sound) (formed : (s.returning one).Formed)
  (formedToo : (s.returning other).Formed)
  (later : n = m ∨ ((s.returning one).evaluated h m).2.Within n)

include sound soundToo formed formedToo later

theorem types_of_returning
    (alike : (s.returning one).Stuck h m ↔ (s.returning other).Stuck h n) :
    (s.returning one).parameterTypes h m = (s.returning other).parameterTypes h n := by
  rw [parameterTypes, parameterTypes,
    hints_of_returning sound soundToo formed formedToo later alike]

theorem types_alike_iff_written :
    TypeExpr.sameAll ((s.returning one).parameterTypes h m)
        ((s.returning other).parameterTypes h n) = true ↔
      ((s.returning one).Stuck h m ↔ (s.returning other).Stuck h n) ∨
        TypeExpr.sameAll ((s.returning one).parameterTypes h m) s.written = true ∧
          TypeExpr.sameAll ((s.returning other).parameterTypes h n) s.written = true := by
  constructor
  · intro same
    by_cases alike : (s.returning one).Stuck h m ↔ (s.returning other).Stuck h n
    · exact .inl alike
    · by_cases stuck : (s.returning one).Stuck h m
      · have own : (s.returning one).parameterTypes h m = s.written := types_of_stuck stuck
        have back := TypeExpr.same_all_symm (parameter_types_formed sound formed) same
        rw [own] at back ⊢
        exact .inr ⟨TypeExpr.same_all_refl _, back⟩
      · have also : (s.returning other).Stuck h n := by
          by_contra free
          exact alike (iff_of_false stuck free)
        have own : (s.returning other).parameterTypes h n = s.written := types_of_stuck also
        rw [own] at same ⊢
        exact .inr ⟨same, TypeExpr.same_all_refl _⟩
  · rintro (alike | ⟨first, second⟩)
    · rw [types_of_returning sound soundToo formed formedToo later alike]
      exact TypeExpr.same_all_refl _
    · have back := TypeExpr.same_all_symm (parameter_types_formed soundToo formedToo) second
      exact TypeExpr.same_all_trans first back

theorem types_alike_iff_standing
    (settled : (∀ t ∈ (s.returning one).parameterTypes h m, t.StandsForItself h) ∨
      ∀ t ∈ (s.returning other).parameterTypes h n, t.StandsForItself h) :
    TypeExpr.sameAll ((s.returning one).parameterTypes h m)
        ((s.returning other).parameterTypes h n) = true ↔
      ((s.returning one).Stuck h m ↔ (s.returning other).Stuck h n) ∨
        ∀ t ∈ s.annotations, t.StandsForItself h := by
  constructor
  · intro same
    by_cases alike : (s.returning one).Stuck h m ↔ (s.returning other).Stuck h n
    · exact .inl alike
    · exact .inr (standing_of_alike sound soundToo formed formedToo alike same settled)
  · rintro (alike | standing)
    · rw [types_of_returning sound soundToo formed formedToo later alike]
      exact TypeExpr.same_all_refl _
    · exact alike_of_standing sound soundToo formed formedToo standing

theorem coverage_alike_iff_written {a b : Handler}
    (goes : a.GoesBy ((s.returning one).parameterTypes h m))
    (goesToo : b.GoesBy ((s.returning other).parameterTypes h n)) :
    (∀ c, c ∈ a.declaredClasses h ↔ c ∈ b.declaredClasses h) ↔
      ((s.returning one).Stuck h m ↔ (s.returning other).Stuck h n) ∨
        ∀ c, h.isExceptionClass c = true →
          .cls c ∈ (s.returning one).parameterTypes h m ++
            (s.returning other).parameterTypes h n →
          ∃ t ∈ s.annotations, t.Lists (.cls c) := by
  simp only [mem_declared_classes goes, mem_declared_classes goesToo]
  constructor
  · intro agree
    by_cases alike : (s.returning one).Stuck h m ↔ (s.returning other).Stuck h n
    · exact .inl alike
    · refine .inr fun c exception shown => ?_
      -- The class is shown by both, and one of them is stuck.
      have both : .cls c ∈ (s.returning one).parameterTypes h m ∧
          .cls c ∈ (s.returning other).parameterTypes h n := by
        rcases List.mem_append.mp shown with here | there
        · exact ⟨here, ((agree c).mp ⟨here, exception⟩).1⟩
        · exact ⟨((agree c).mpr ⟨there, exception⟩).1, there⟩
      by_cases stuck : (s.returning one).Stuck h m
      · exact written_of_stuck stuck both.1
      · have also : (s.returning other).Stuck h n := by
          by_contra free
          exact alike (iff_of_false stuck free)
        exact written_of_stuck also both.2
  · rintro (alike | written) c
    · rw [types_of_returning sound soundToo formed formedToo later alike]
    · constructor
      · rintro ⟨shown, exception⟩
        obtain ⟨t, among, lists⟩ := written c exception (List.mem_append_left _ shown)
        exact ⟨cls_shown_of_written soundToo formedToo among lists, exception⟩
      · rintro ⟨shown, exception⟩
        obtain ⟨t, among, lists⟩ := written c exception (List.mem_append_right _ shown)
        exact ⟨cls_shown_of_written sound formed among lists, exception⟩

end Compared

end Results

def errorScope : Scope where
  read text := [("ValueError", Expression.value (.cls (Hierarchy.builtinPlace "ValueError"))),
    ("Optional[OSError]", .optional (.value (.cls (Hierarchy.builtinPlace "OSError"))))].lookup text

def namedError : Signature where
  scope := errorScope
  params := [("error", some (.text "ValueError")), ("cause", some (.text "Optional[OSError]"))]

theorem named_error_formed (returns : Option TypeExpr) (formed : ∀ t ∈ returns, t.Formed) :
    (namedError.returning returns).Formed where
  annotated := by
    have inside : ∀ t ∈ returns.toList, t.Formed := by simpa using formed
    simpa [namedError, returning, annotations, TypeExpr.Formed.text] using inside
  scope name e reads := by
    have among := Entries.mem_of_lookup reads
    simp only [List.mem_cons, Prod.mk.injEq, List.not_mem_nil, or_false] at among
    rcases among with ⟨_, rfl⟩ | ⟨_, rfl⟩
    · exact .value (.cls _)
    · exact .optional (.value (.cls _))

def namedErrorHandler (returns : Option TypeExpr) : Handler where
  function := ⟨"on_error", none⟩
  parameterTypes := (namedError.returning returns).parameterTypes Hierarchy.builtin {}
  name := "on_error"

end Signature

end HandlerRouting
