import HandlerRouting.Proofs.Related
import HandlerRouting.TypeExpr.Formed

/-!
Sameness of type expressions. It goes from one to the next without further conditions. It can be
turned round where unions have distinct members, as all unions that are formed have.
-/

namespace HandlerRouting.TypeExpr

theorem same_all_iff (ts us : List TypeExpr) :
    sameAll ts us = true ↔ List.Forall₂ (fun t u => same t u = true) ts us := by
  induction ts generalizing us with
  | nil => cases us <;> simp [sameAll]
  | cons t rest ih =>
    cases us with
    | nil =>
      simp only [sameAll, Bool.false_eq_true, false_iff]
      exact nofun
    | cons u others => simp [sameAll, ih]

theorem all_in_iff (ts us : List TypeExpr) :
    allIn ts us = true ↔ ∀ t ∈ ts, ∃ u ∈ us, same t u = true := by
  induction ts with
  | nil => simp [allIn]
  | cons t rest ih => simp [allIn, ih]

theorem same_cls_iff (c : ClassId) (t : TypeExpr) : same t (cls c) = true ↔ t = cls c := by
  cases t <;> simp [same]

theorem same_none_iff (t : TypeExpr) : same t none = true ↔ t = none := by
  cases t <;> simp [same]

theorem none_same_iff (t : TypeExpr) : same none t = true ↔ t = none := by
  cases t <;> simp [same]

theorem same_trans {t u v : TypeExpr} (first : same t u = true) (second : same u v = true) :
    same t v = true := by
  induction t using nested_induction generalizing u v with
  | generic origin args ih =>
    cases u <;> simp only [same, Bool.and_eq_true, beq_iff_eq, Bool.false_eq_true] at first
    obtain ⟨rfl, first⟩ := first
    cases v <;> simp only [same, Bool.and_eq_true, beq_iff_eq, Bool.false_eq_true] at second
    obtain ⟨rfl, second⟩ := second
    rw [same_all_iff] at first second
    simp only [same, beq_self_eq_true, Bool.true_and, same_all_iff]
    exact related_through ih first second
  | union barred parts ih =>
    cases u <;> simp only [same, Bool.and_eq_true, beq_iff_eq, Bool.false_eq_true] at first
    cases v <;> simp only [same, Bool.and_eq_true, beq_iff_eq, Bool.false_eq_true] at second
    simp only [all_in_iff] at first second
    simp only [same, Bool.and_eq_true, beq_iff_eq, all_in_iff]
    refine ⟨first.1.trans second.1, fun t among => ?_⟩
    obtain ⟨u, between, near⟩ := first.2 t among
    obtain ⟨v, there, far⟩ := second.2 u between
    exact ⟨v, there, ih t among near far⟩
  | _ =>
    cases u <;> simp only [same, beq_iff_eq, Bool.false_eq_true] at first
    all_goals cases v <;> simp_all [same]

theorem Formed.same_symm {t u : TypeExpr} (formed : t.Formed) (alike : same t u = true) :
    same u t = true := by
  induction formed generalizing u with
  | generic _ ih =>
    cases u <;> simp only [same, Bool.and_eq_true, beq_iff_eq, Bool.false_eq_true] at alike
    simp only [same, Bool.and_eq_true, beq_iff_eq, same_all_iff] at alike ⊢
    exact ⟨alike.1.symm, related_back (fun t among u => ih t among) alike.2⟩
  | @union _ parts _ _ distinct ih =>
    cases u <;> simp only [same, Bool.and_eq_true, beq_iff_eq, Bool.false_eq_true] at alike
    obtain ⟨length, inside⟩ := alike
    simp only [same, Bool.and_eq_true, beq_iff_eq, all_in_iff] at inside ⊢
    refine ⟨length.symm, fun u there => ?_⟩
    -- Two members with the same partner would be the same.
    have apart : parts.Pairwise fun t other => ∀ v, same t v = true → ¬ same other v = true := by
      refine distinct.imp_of_mem fun {t other} _ among differ v near far => ?_
      rw [← Bool.not_eq_true] at differ
      exact differ (same_trans near (ih other among far))
    obtain ⟨t, among, found⟩ := exists_partner length inside apart u there
    exact ⟨t, among, ih t among found⟩
  | _ => cases u <;> simp_all [same]

theorem same_all_symm {ts us : List TypeExpr} (formed : ∀ t ∈ ts, t.Formed)
    (alike : sameAll ts us = true) : sameAll us ts = true := by
  rw [same_all_iff] at alike ⊢
  exact related_back (fun t among u => (formed t among).same_symm) alike

theorem same_all_trans {ts us vs : List TypeExpr} (first : sameAll ts us = true)
    (second : sameAll us vs = true) : sameAll ts vs = true := by
  rw [same_all_iff] at first second ⊢
  refine related_through (fun t _ u v => ?_) first second
  exact same_trans

section Settled
variable {h : Hierarchy}

theorem settled_all_iff (ts : List TypeExpr) :
    settledAll h ts = true ↔ ∀ t ∈ ts, t.settled h = true := by
  induction ts with
  | nil => simp [settledAll]
  | cons t rest ih => simp [settledAll, ih]

theorem settled_of_same {t u : TypeExpr} (alike : same t u = true) (settled : u.settled h = true) :
    t.settled h = true := by
  induction t using nested_induction generalizing u with
  | generic origin args ih =>
    cases u <;> simp only [same, Bool.and_eq_true, beq_iff_eq, Bool.false_eq_true] at alike
    simp only [TypeExpr.settled, Bool.and_eq_true, settled_all_iff] at settled ⊢
    obtain ⟨rfl, each⟩ := alike
    refine ⟨settled.1, fun t among => ?_⟩
    obtain ⟨u, there, near⟩ := exists_related ((same_all_iff ..).mp each).flip among
    exact ih t among near (settled.2 u there)
  | union barred parts ih =>
    cases u <;> simp only [same, Bool.and_eq_true, beq_iff_eq, Bool.false_eq_true] at alike
    simp only [TypeExpr.settled, settled_all_iff] at settled ⊢
    intro t among
    obtain ⟨u, there, near⟩ := (all_in_iff ..).mp alike.2 t among
    exact ih t among near (settled u there)
  | _ => cases u <;> simp_all [same, TypeExpr.settled]

end Settled

end HandlerRouting.TypeExpr
