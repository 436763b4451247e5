import HandlerRouting.Distinct
import HandlerRouting.Proofs.Hierarchy.Lineage
import Mathlib.Data.List.Nodup

/-!
Lineages as they are merged. A merge that comes to its end takes one head after the other; from this
every list that goes into it keeps its order, nothing else comes in and nothing comes in twice. So a
lineage holds the lineage of each of its classes, in order.
-/

namespace HandlerRouting.Hierarchy
variable {h : Hierarchy}

inductive Merges : List (List ClassId) → List ClassId → Prop where
  | done {lists : List (List ClassId)} (empty : lists.all List.isEmpty = true) : Merges lists []
  | step {lists : List (List ClassId)} {c : ClassId} {rest : List ClassId}
      (chosen : nextHead? lists = some c) (behind : Merges (lists.map (dropHead c)) rest) :
      Merges lists (c :: rest)

theorem merges_within {fuel : Nat} {lists : List (List ClassId)} {merged : List ClassId}
    (made : mergeWithin fuel lists = some merged) : Merges lists merged := by
  induction fuel generalizing lists merged with
  | zero =>
    simp only [mergeWithin, Option.ite_none_right_eq_some, Option.some.injEq] at made
    obtain ⟨empty, rfl⟩ := made
    exact .done empty
  | succ fuel ih =>
    rw [mergeWithin] at made
    split at made
    · rename_i empty
      cases made
      exact .done empty
    · split at made
      · cases made
      · rename_i c chosen
        obtain ⟨rest, behind, rfl⟩ := Option.map_eq_some_iff.mp made
        exact .step chosen (ih behind)

theorem merges_of_merge {lists : List (List ClassId)} {merged : List ClassId}
    (made : merge lists = some merged) : Merges lists merged := merges_within made

theorem drop_head_sublist (c : ClassId) (list : List ClassId) :
    (dropHead c list).Sublist list := by
  unfold dropHead
  split
  · exact List.drop_sublist 1 list
  · exact List.Sublist.refl list

theorem next_head_dropped {lists : List (List ClassId)} {c : ClassId}
    (chosen : nextHead? lists = some c) {list : List ClassId}
    (member : list ∈ lists.map (dropHead c)) : c ∉ list := by
  obtain ⟨whole, listed, rfl⟩ := List.mem_map.mp member
  have eligible := List.find?_some (show List.find? _ _ = some c from chosen)
  have behind : c ∉ whole.drop 1 := by
    simpa using List.all_eq_true.mp eligible whole listed
  unfold dropHead
  split
  · exact behind
  · rename_i other
    cases whole with
    | nil => simp
    | cons first tail =>
      simp only [List.head?_cons, Option.some.injEq] at other
      exact List.not_mem_cons_of_ne_of_not_mem (Ne.symm other) behind

variable {lists : List (List ClassId)} {merged : List ClassId}

theorem Merges.sublist (merges : Merges lists merged) {list : List ClassId}
    (member : list ∈ lists) : list.Sublist merged := by
  induction merges generalizing list with
  | done empty =>
    have nothing := List.isEmpty_iff.mp (List.all_eq_true.mp empty list member)
    rw [nothing]
  | @step lists c rest _ _ ih =>
    have kept := ih (List.mem_map_of_mem member)
    cases list with
    | nil => exact List.nil_sublist _
    | cons first tail =>
      by_cases same : first = c
      · subst same
        simpa [dropHead] using kept
      · have whole : dropHead c (first :: tail) = first :: tail := by simp [dropHead, same]
        rw [whole] at kept
        exact kept.cons c

theorem Merges.from_list (merges : Merges lists merged) {c : ClassId} (member : c ∈ merged) :
    ∃ list ∈ lists, c ∈ list := by
  induction merges with
  | done => cases member
  | @step lists first rest chosen _ ih =>
    rcases List.mem_cons.mp member with rfl | later
    · obtain ⟨list, listed, head⟩ := List.mem_filterMap.mp (List.mem_of_find?_eq_some chosen)
      exact ⟨list, listed, List.mem_of_head? head⟩
    · obtain ⟨list, dropped, inside⟩ := ih later
      obtain ⟨whole, listed, rfl⟩ := List.mem_map.mp dropped
      exact ⟨whole, listed, (drop_head_sublist first whole).mem inside⟩

theorem Merges.nodup (merges : Merges lists merged) : merged.Nodup := by
  induction merges with
  | done => exact List.nodup_nil
  | step chosen behind ih =>
    apply List.nodup_cons.mpr
    refine ⟨?_, ih⟩
    intro again
    obtain ⟨list, dropped, inside⟩ := behind.from_list again
    exact next_head_dropped chosen dropped inside

theorem lineage_of_older {c : ClassId} (older : c < h.classes.length) (more : List ClassEntry) :
    lineage ⟨h.classes ++ more⟩ c = h.lineage c := by
  simp [lineage, entry?, List.getElem?_append_left older]

/-- A class of a built hierarchy is defined after its bases, and what follows it in its lineage is
merged from theirs. -/
theorem Built.lineage_merges (built : h.Built) {c : ClassId} (there : c < h.classes.length) :
    ∃ bases ancestors, (∀ b ∈ bases, b < c) ∧
      Merges (bases.map h.lineage ++ [bases]) ancestors ∧ h.lineage c = c :: ancestors := by
  induction built generalizing c with
  | empty => cases there
  | @define before next module name bases abstract _ defined ih =>
    obtain ⟨ancestors, merged, last⟩ := lineage_define defined
    simp only [define?, Option.ite_none_right_eq_some, Option.map_eq_some_iff] at defined
    obtain ⟨known, _, _, rfl⟩ := defined
    simp only [List.length_append, List.length_singleton] at there
    -- The classes from before have the lineages that they had.
    rcases Nat.lt_succ_iff_lt_or_eq.mp there with older | rfl
    · obtain ⟨others, behind, below, merges, first⟩ := ih older
      refine ⟨others, behind, below, ?_, (lineage_of_older older _).trans first⟩
      rwa [List.map_congr_left fun b member =>
        lineage_of_older (Nat.lt_trans (below b member) older) _]
    · have below : ∀ b ∈ bases, b < before.classes.length := by
        intro b member
        simpa using List.all_eq_true.mp known b member
      refine ⟨bases, ancestors, below, ?_, last⟩
      rw [List.map_congr_left fun b member => lineage_of_older (below b member) _]
      exact merges_of_merge merged
  | @register before _ abstractClass other ih =>
    rw [register_size] at there
    obtain ⟨bases, ancestors, below, merges, first⟩ := ih there
    refine ⟨bases, ancestors, below, ?_, ?_⟩
    · rwa [List.map_congr_left fun b _ => register_lineage before abstractClass other b]
    · rwa [register_lineage]

theorem lineage_of_missing {c : ClassId} (missing : ¬ c < h.classes.length) : h.lineage c = [] := by
  simp [lineage, entry?, Nat.le_of_not_lt missing]

theorem there_of_mem_lineage {c ancestor : ClassId} (member : ancestor ∈ h.lineage c) :
    c < h.classes.length := by
  apply Decidable.byContradiction
  intro missing
  simp [lineage_of_missing missing] at member

theorem from_bases {bases ancestors : List ClassId} {ancestor : ClassId} (built : h.Built)
    (merges : Merges (bases.map h.lineage ++ [bases]) ancestors)
    (known : ∀ b ∈ bases, b < h.classes.length) (member : ancestor ∈ ancestors) :
    ∃ b ∈ bases, ancestor ∈ h.lineage b := by
  obtain ⟨list, listed, inside⟩ := merges.from_list member
  rcases List.mem_append.mp listed with mapped | whole
  · obtain ⟨b, base, rfl⟩ := List.mem_map.mp mapped
    exact ⟨b, base, inside⟩
  · obtain rfl := List.mem_singleton.mp whole
    obtain ⟨rest, first⟩ := built.lineage_head (known ancestor inside)
    exact ⟨ancestor, inside, by simp [first]⟩

theorem Built.ancestor_le (built : h.Built) {c ancestor : ClassId}
    (member : ancestor ∈ h.lineage c) : ancestor ≤ c := by
  induction c using Nat.strongRecOn with
  | ind c ih =>
    have there := there_of_mem_lineage member
    obtain ⟨bases, ancestors, below, merges, first⟩ := built.lineage_merges there
    rw [first] at member
    rcases List.mem_cons.mp member with rfl | behind
    · exact Nat.le_refl _
    · have known := fun b base => Nat.lt_trans (below b base) there
      obtain ⟨b, base, inside⟩ := from_bases built merges known behind
      exact Nat.le_trans (ih b (below b base) inside) (Nat.le_of_lt (below b base))

theorem Built.ancestor_there (built : h.Built) {c ancestor : ClassId}
    (member : ancestor ∈ h.lineage c) : ancestor < h.classes.length :=
  Nat.lt_of_le_of_lt (built.ancestor_le member) (there_of_mem_lineage member)

theorem Built.lineage_nodup (built : h.Built) (c : ClassId) : (h.lineage c).Nodup := by
  by_cases there : c < h.classes.length
  · obtain ⟨bases, ancestors, below, merges, first⟩ := built.lineage_merges there
    rw [first]
    refine List.nodup_cons.mpr ⟨?_, merges.nodup⟩
    intro again
    have known := fun b base => Nat.lt_trans (below b base) there
    obtain ⟨b, base, inside⟩ := from_bases built merges known again
    exact Nat.not_lt.mpr (built.ancestor_le inside) (below b base)
  · rw [lineage_of_missing there]
    exact List.nodup_nil

/-- A lineage keeps the order of the lineage of each of its classes. -/
theorem Built.lineage_sublist (built : h.Built) {c ancestor : ClassId}
    (member : ancestor ∈ h.lineage c) : (h.lineage ancestor).Sublist (h.lineage c) := by
  -- Bases are defined before the class, so the induction is on its place.
  induction c using Nat.strongRecOn with
  | ind c ih =>
    have there := there_of_mem_lineage member
    obtain ⟨bases, ancestors, below, merges, first⟩ := built.lineage_merges there
    rw [first] at member
    rcases List.mem_cons.mp member with rfl | behind
    · exact List.Sublist.refl _
    · have known := fun b base => Nat.lt_trans (below b base) there
      obtain ⟨b, base, inside⟩ := from_bases built merges known behind
      have ofBase : (h.lineage b).Sublist ancestors :=
        merges.sublist (List.mem_append_left _ (List.mem_map_of_mem base))
      rw [first]
      exact ((ih b (below b base) inside).trans ofBase).cons c

theorem filter_of_sublist {part whole : List ClassId} (within : part.Sublist whole)
    (distinct : whole.Nodup) : whole.filter (part.contains ·) = part := by
  induction within with
  | slnil => rfl
  | @cons part whole c within ih =>
    obtain ⟨fresh, others⟩ := List.nodup_cons.mp distinct
    have outside : c ∉ part := fun inside => fresh (within.mem inside)
    rw [List.filter_cons_of_neg (by simpa using outside)]
    exact ih others
  | @cons_cons part whole c within ih =>
    obtain ⟨fresh, others⟩ := List.nodup_cons.mp distinct
    rw [List.filter_cons_of_pos (by simp)]
    refine congrArg (c :: ·) ((List.filter_congr ?_).trans (ih others))
    intro d member
    simp [ne_of_mem_of_not_mem member fresh]

theorem not_sublist_swap {a b : ClassId} {list : List ClassId} (distinct : list.Nodup)
    (order : [a, b].Sublist list) : ¬ [b, a].Sublist list := by
  induction list with
  | nil => cases order
  | cons c rest ih =>
    obtain ⟨fresh, others⟩ := List.nodup_cons.mp distinct
    intro swapped
    cases order with
    | cons _ order =>
      cases swapped with
      | cons _ swapped => exact ih others order swapped
      | cons_cons _ _ => exact fresh (order.mem (by simp))
    | cons_cons _ order =>
      cases swapped with
      | cons _ swapped => exact fresh (swapped.mem (by simp))
      | cons_cons _ _ => exact fresh (order.mem (by simp))

theorem Built.lineage_filter (built : h.Built) {c ancestor : ClassId}
    (member : ancestor ∈ h.lineage c) :
    (h.lineage c).filter ((h.lineage ancestor).contains ·) = h.lineage ancestor :=
  filter_of_sublist (built.lineage_sublist member) (built.lineage_nodup c)

/-- A class of a lineage is nearer than all others that it descends from. -/
theorem Built.distance_lt (built : h.Built) {c lower upper : ClassId}
    (descends : upper ∈ h.lineage lower) (differ : lower ≠ upper) (member : lower ∈ h.lineage c) :
    h.distance c lower < h.distance c upper := by
  obtain ⟨ancestors, first⟩ := built.lineage_head (there_of_mem_lineage descends)
  have behind : upper ∈ ancestors := by
    rw [first] at descends
    exact (List.mem_cons.mp descends).resolve_left (Ne.symm differ)
  have order : [lower, upper].Sublist (h.lineage lower) := by
    rw [first]
    exact (List.singleton_sublist.mpr behind).cons_cons lower
  exact idx_of_lt_of_sublist (built.lineage_nodup c) (order.trans (built.lineage_sublist member))

end HandlerRouting.Hierarchy
