import HandlerRouting.Hierarchy.Builtin
import HandlerRouting.Precedence
import HandlerRouting.Proofs.MediaType.Checked
import HandlerRouting.Proofs.MediaType.Ranking

/-!
Precedence as an order. Nearer classes come first, and at one distance specificity decides, which is
a strict order itself. Equal media types are tied without being looked at further; nothing is lost
by it, for neither of them is more specific.
-/

namespace HandlerRouting.Precedence

section Comparing
variable {near middle far : Nat} {a b c : MediaType}

theorem compare_at_self (near : Nat) (a : MediaType) : compareAt near near a a = .eq := by
  simp [compareAt]

theorem compare_at_swap (near far : Nat) (a b : MediaType) :
    compareAt far near b a = (compareAt near far a b).swap := by
  rcases lt_trichotomy near far with nearer | rfl | farther
  · simp [compareAt, nearer, nearer.not_gt]
  · simp only [compareAt, lt_irrefl, if_false]
    rw [BEq.comm (a := b)]
    cases a == b with
    | true => rfl
    | false =>
      cases first : a.moreSpecific b with
      | true => simp [MediaType.more_specific_asymm first]
      | false => cases b.moreSpecific a <;> rfl
  · simp [compareAt, farther, farther.not_gt]

theorem compare_at_eq_iff (near far : Nat) (a b : MediaType) :
    compareAt near far a b = .eq ↔
      (compareAt near far a b == .lt) = false ∧ (compareAt far near b a == .lt) = false := by
  rw [compare_at_swap near far a b]
  cases compareAt near far a b <;> decide

theorem compare_at_lt_iff (distinct : (Entries.keys a.parameters).Nodup) :
    compareAt near far a b = .lt ↔ near < far ∨ near = far ∧ a.moreSpecific b = true := by
  rcases lt_trichotomy near far with nearer | rfl | farther
  · simp [compareAt, nearer]
  · simp only [compareAt, lt_irrefl, if_false]
    cases same : a == b with
    | true => simp [MediaType.not_more_specific_of_same distinct same]
    | false =>
      cases a.moreSpecific b with
      | true => simp
      | false => cases b.moreSpecific a <;> simp
  · simp [compareAt, farther, farther.not_gt, farther.ne']

theorem compare_at_trans (ofA : (Entries.keys a.parameters).Nodup)
    (ofB : (Entries.keys b.parameters).Nodup) (first : compareAt near middle a b = .lt)
    (second : compareAt middle far b c = .lt) : compareAt near far a c = .lt := by
  rw [compare_at_lt_iff ofA] at first ⊢
  rw [compare_at_lt_iff ofB] at second
  rcases first with nearer | ⟨rfl, more⟩
  · rcases second with nearerToo | ⟨rfl, _⟩
    · exact Or.inl (nearer.trans nearerToo)
    · exact Or.inl nearer
  · rcases second with nearerToo | ⟨rfl, moreToo⟩
    · exact Or.inl nearerToo
    · exact Or.inr ⟨rfl, MediaType.more_specific_trans more moreToo⟩

end Comparing

section Keys
variable {a b c : Key}

theorem compare_keys_swap (lineage : List ClassId) (a b : Key) :
    compareKeys lineage b a = (compareKeys lineage a b).swap := compare_at_swap ..

/-- Of keys with media types that there are, for every class raised: turned round, a comparison is
reversed; a key is tied with itself; and coming first is transitive. So it is for specificity alone,
whose first criterion is always a number from 0 to 1. Routes compare as their keys do. -/
theorem compare_keys_strict_order (h : Hierarchy) (raised : ClassId) (ofA : a.media.Obtainable)
    (ofB : b.media.Obtainable) :
    let compared := compareKeys (h.lineage raised)
    (compared b a = (compared a b).swap ∧ compared a a = .eq ∧
        (compared a b = .lt → compared b c = .lt → compared a c = .lt)) ∧
      (a.media.moreSpecific a.media = false ∧
        (a.media.moreSpecific b.media = true → b.media.moreSpecific a.media = false) ∧
        (a.media.moreSpecific b.media = true → b.media.moreSpecific c.media = true →
          a.media.moreSpecific c.media = true)) ∧
      MediaType.isQuality a.media.quality = true ∧ a.media.quality.isUndefined = false := by
  have range := ofA.wellFormed.quality_in_range
  refine ⟨⟨compare_keys_swap .., compare_at_self .., ?_⟩,
    ⟨a.media.more_specific_irrefl, MediaType.more_specific_asymm, MediaType.more_specific_trans⟩,
    range, MediaType.defined_of_quality range⟩
  exact compare_at_trans ofA.names_distinct ofB.names_distinct

theorem zero_division_keys_in_order :
    let lineage := Hierarchy.builtin.lineage (Hierarchy.builtinPlace "ZeroDivisionError")
    let key := fun name media => Key.mk (.cls (Hierarchy.builtinPlace name)) media
    ∃ wide page : MediaType, MediaType.parse "*/*" = .ok wide ∧
      MediaType.parse "text/html;level=1" = .ok page ∧
      compareKeys lineage (key "ZeroDivisionError" wide)
        (key "ArithmeticError" MediaType.textHtml) = .lt := by
  intro lineage key
  have readWide : MediaType.parse "*/*" = .ok .all := by decide
  have readPage : MediaType.parse "text/html;level=1" =
      .ok ⟨"text".toList, "html".toList, [("level".toList, "1".toList)]⟩ := by decide
  refine ⟨_, _, readWide, readPage, ?_⟩
  have order := compare_keys_strict_order (a := key "ZeroDivisionError" .all)
    (b := key "ArithmeticError" _) (c := key "ArithmeticError" .textHtml) Hierarchy.builtin
    (Hierarchy.builtinPlace "ZeroDivisionError") (.parsed readWide) (.parsed readPage)
  exact order.1.2.2 (by decide +kernel) (by decide +kernel)

end Keys

end HandlerRouting.Precedence
