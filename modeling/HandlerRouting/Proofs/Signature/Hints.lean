import HandlerRouting.Proofs.TypeExpr.LookingUp
import HandlerRouting.Signature.Flattened

/-!
The annotations of a signature looked up. Those of the parameters come first, so that the result's
annotation decides no more than whether they count as they were looked up or as they are written.
-/

namespace HandlerRouting.Signature
variable {h : Hierarchy} {s : Signature} {m n : TypeMemory}

/-! ## Flattening -/

theorem mem_flattened_iff {hints : List TypeExpr} {t : TypeExpr} :
    t ∈ hints.flatMap TypeExpr.members ↔ ∃ hint ∈ hints, hint.Lists t := by
  simp only [List.mem_flatMap, TypeExpr.mem_members_iff]

theorem exists_hint_of_kept {hints : List TypeExpr} {t : TypeExpr}
    (kept : t ∈ distinct (hints.flatMap TypeExpr.members)) : ∃ hint ∈ hints, hint.Lists t :=
  mem_flattened_iff.mp ((distinct_sublist _).subset kept)

theorem exists_kept {hints : List TypeExpr} {hint t : TypeExpr} (among : hint ∈ hints)
    (lists : hint.Lists t) :
    ∃ u ∈ distinct (hints.flatMap TypeExpr.members), TypeExpr.same u t = true :=
  exists_distinct (mem_flattened_iff.mpr ⟨hint, among, lists⟩)

/-! ## Looking up -/

theorem Formed.annotations (formed : s.Formed) : ∀ t ∈ s.annotations, t.Formed :=
  fun t among => formed.annotated t (List.mem_append_left _ among)

theorem Formed.steady_one (formed : s.Formed) (h : Hierarchy) {t : TypeExpr} (shaped : t.Formed) :
    Search.Steady (TypeExpr.Meaning t.asAnnotation)
      (t.asAnnotation.resolve h (s.scope.lookUp h)) :=
  TypeExpr.steady_resolve (Scope.steady_look_up formed.scope) shaped.annotated

theorem Formed.steady (formed : s.Formed) (h : Hierarchy) {ts : List TypeExpr}
    (shaped : ∀ t ∈ ts, t.Formed) :
    Search.Steady (List.Forall₂ TypeExpr.Meaning (ts.map TypeExpr.asAnnotation))
      (TypeExpr.resolveAll h (s.scope.lookUp h) (ts.map TypeExpr.asAnnotation)) :=
  TypeExpr.steady_resolve_annotations (Scope.steady_look_up formed.scope)
    (TypeExpr.as_annotations_formed shaped)

theorem Formed.steady_evaluated (formed : s.Formed) (h : Hierarchy) :
    Search.Steady (List.Forall₂ TypeExpr.Meaning
      ((s.annotations ++ s.returns.toList).map TypeExpr.asAnnotation)) (s.evaluated h) :=
  formed.steady h formed.annotated

theorem hints_of_unresolved (stuck : (s.evaluated h m).1 = none) :
    s.hints h m = s.annotations := by
  simp [hints, stuck]

section Looked
variable (sound : m.Sound) (formed : s.Formed) {found : List TypeExpr}
  (evaluated : (s.evaluated h m).1 = some found)

include sound formed evaluated

theorem hints_looked_up :
    ∃ between : TypeMemory, between.Within (s.evaluated h m).2 ∧
      TypeExpr.resolveAll h (s.scope.lookUp h) (s.annotations.map TypeExpr.asAnnotation) m =
        (some (s.hints h m), between) := by
  have whole : s.evaluated h m = (some found, (s.evaluated h m).2) := Prod.ext evaluated rfl
  have last : ∀ t ∈ s.returns.toList, t.Formed :=
    fun t among => formed.annotated t (List.mem_append_right _ among)
  rw [Signature.evaluated, List.map_append, TypeExpr.resolve_all_append_iff] at whole
  obtain ⟨first, between, others, here, behind, rfl⟩ := whole
  have still := (formed.steady h formed.annotations).sound sound
  have grown := (formed.steady h last).within (m := between)
  rw [here] at still
  rw [behind] at grown
  have length := TypeExpr.resolve_all_length here
  rw [List.length_map] at length
  refine ⟨between, ?_, ?_⟩
  · rw [Signature.evaluated, List.map_append]
    exact grown still
  · rw [here, hints, evaluated]
    simp [length]

theorem hints_meanings :
    List.Forall₂ (fun t hint => TypeExpr.Meaning t.asAnnotation hint) s.annotations
      (s.hints h m) := by
  obtain ⟨_, _, looked⟩ := hints_looked_up sound formed evaluated
  exact List.forall₂_map_left_iff.mp
    ((formed.steady h formed.annotations).found sound (congrArg Prod.fst looked))

theorem hints_joinable : ∀ hint ∈ s.hints h m, hint.Joinable := by
  intro hint among
  obtain ⟨t, _, meaning⟩ := exists_related (hints_meanings sound formed evaluated) among
  exact meaning.joinable (TypeExpr.as_annotation_not_none t)

/-- What has been looked up is found again, in functions that differ in their results too. -/
theorem hints_again {other : Signature} (scope : other.scope = s.scope)
    (annotations : other.annotations = s.annotations) (formedToo : other.Formed)
    (soundToo : n.Sound) (later : (s.evaluated h m).2.Within n) {foundToo : List TypeExpr}
    (evaluatedToo : (other.evaluated h n).1 = some foundToo) :
    other.hints h n = s.hints h m := by
  obtain ⟨between, within, looked⟩ := hints_looked_up sound formed evaluated
  obtain ⟨_, _, lookedToo⟩ := hints_looked_up soundToo formedToo evaluatedToo
  rw [scope, annotations] at lookedToo
  have again := (formed.steady h formed.annotations).again sound soundToo
    (congrArg Prod.fst looked)
  rw [looked, lookedToo] at again
  exact Option.some.inj (again (within.trans later)).1

end Looked

theorem evaluated_again (sound : m.Sound) (soundToo : n.Sound) (formed : s.Formed)
    {found : List TypeExpr} (evaluated : (s.evaluated h m).1 = some found)
    (later : (s.evaluated h m).2.Within n) : (s.evaluated h n).1 = some found :=
  ((formed.steady_evaluated h).again sound soundToo evaluated later).1

/-! ## Meaning -/

theorem means_of_looked {t hint : TypeExpr} {after : TypeMemory} (sound : m.Sound)
    (looked : t.asAnnotation.resolve h (s.scope.lookUp h) m = (some hint, after)) :
    s.Means h t hint where
  looked := ⟨m, sound, congrArg Prod.fst looked⟩
  itself standing := by
    rw [TypeExpr.as_annotation_of_standing standing, TypeExpr.resolve_settled standing.2] at looked
    exact (Option.some.inj (Prod.mk.inj looked).1).symm
  read name text := by
    subst text
    obtain ⟨e, u, between, read, formed, found⟩ := (Scope.resolve_text_iff ..).mp looked
    refine ⟨e, u, m, sound, read, congrArg Prod.fst formed, fun standing => ?_⟩
    rw [TypeExpr.as_annotation_of_standing standing, TypeExpr.resolve_settled standing.2] at found
    exact (Option.some.inj (Prod.mk.inj found).1).symm

theorem each_meant (formed : s.Formed) {ts : List TypeExpr} (shaped : ∀ t ∈ ts, t.Formed)
    (sound : m.Sound) {found : List TypeExpr} {after : TypeMemory}
    (looked : TypeExpr.resolveAll h (s.scope.lookUp h) (ts.map TypeExpr.asAnnotation) m =
      (some found, after)) : List.Forall₂ (s.Means h) ts found := by
  induction ts generalizing m found with
  | nil =>
    obtain rfl := Option.some.inj (Prod.mk.inj looked).1
    exact .nil
  | cons t rest ih =>
    obtain ⟨own, others⟩ := List.forall_mem_cons.mp shaped
    obtain ⟨first, between, behind, here, beyond, rfl⟩ :=
      (TypeExpr.resolve_all_cons_iff ..).mp looked
    have still := (formed.steady_one h own).sound sound
    rw [here] at still
    exact .cons (means_of_looked sound here) (ih others still beyond)

theorem hints_meant (sound : m.Sound) (formed : s.Formed) {found : List TypeExpr}
    (evaluated : (s.evaluated h m).1 = some found) :
    List.Forall₂ (s.Means h) s.annotations (s.hints h m) := by
  obtain ⟨_, _, looked⟩ := hints_looked_up sound formed evaluated
  exact each_meant formed formed.annotations sound looked

end HandlerRouting.Signature
