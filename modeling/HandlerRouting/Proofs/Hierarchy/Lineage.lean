import HandlerRouting.Hierarchy.Builtin

/-!
Lineages of built hierarchies: a class stands first in its own lineage, so it is the only one at no
distance from itself, and it accepts itself.
-/

namespace HandlerRouting.Hierarchy
variable {h : Hierarchy}

theorem register_lineage (h : Hierarchy) (abstractClass c d : ClassId) :
    (h.register abstractClass c).lineage d = h.lineage d := by
  unfold register
  split
  · rfl
  · simp only [lineage, entry?, List.getElem?_modify]
    cases h.classes[d]? with
    | none => rfl
    | some entry =>
      by_cases changed : abstractClass = d <;> simp [changed]

theorem register_size (h : Hierarchy) (abstractClass c : ClassId) :
    (h.register abstractClass c).classes.length = h.classes.length := by
  unfold register
  split
  · rfl
  · simp

theorem Built.lineage_head (built : h.Built) {c : ClassId} (there : c < h.classes.length) :
    ∃ ancestors, h.lineage c = c :: ancestors := by
  induction built with
  | empty => cases there
  | @define before next module name bases abstract _ defined ih =>
    have last := lineage_define defined
    simp only [define?, Option.ite_none_right_eq_some, Option.map_eq_some_iff] at defined
    obtain ⟨_, ancestors, _, rfl⟩ := defined
    simp only [List.length_append, List.length_singleton] at there
    rcases Nat.lt_succ_iff_lt_or_eq.mp there with older | rfl
    · obtain ⟨rest, first⟩ := ih older
      refine ⟨rest, ?_⟩
      rw [← first]
      simp [lineage, entry?, List.getElem?_append_left older]
    · obtain ⟨rest, _, first⟩ := last
      exact ⟨rest, first⟩
  | register _ abstractClass other ih =>
    rw [register_size] at there
    rw [register_lineage]
    exact ih there

theorem there_of_exception_class {c : ClassId} (exceptional : h.isExceptionClass c = true) :
    c < h.classes.length := by
  apply Nat.lt_of_not_le
  intro missing
  simp [isExceptionClass, lineage, entry?, missing] at exceptional

theorem Built.exception_lineage (built : h.Built) {c : ClassId}
    (exceptional : h.isExceptionClass c = true) : ∃ ancestors, h.lineage c = c :: ancestors :=
  built.lineage_head (there_of_exception_class exceptional)

theorem Built.accepts_self (built : h.Built) {c : ClassId}
    (exceptional : h.isExceptionClass c = true) : h.isSubclass c c = true := by
  obtain ⟨ancestors, first⟩ := built.exception_lineage exceptional
  exact accepts_of_lineage (by simp [first])

theorem Built.distance_zero_iff (built : h.Built) {c : ClassId}
    (exceptional : h.isExceptionClass c = true) (ancestor : ClassId) :
    h.distance c ancestor = 0 ↔ ancestor = c := by
  obtain ⟨ancestors, first⟩ := built.exception_lineage exceptional
  rw [distance, first, List.idxOf_cons]
  by_cases same : c = ancestor
  · simp [same]
  · simp [beq_false_of_ne same, Ne.symm same]

end HandlerRouting.Hierarchy
