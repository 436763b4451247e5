import HandlerRouting.Container.Discovered
import Mathlib.Data.List.Basic
import Mathlib.Data.List.Nodup

/-!
The walk over the names of a lineage. It gives each name once, with the first class that defines it,
in the order of the classes and then in that of their bodies. What has been seen already is carried
along in the statements, since a walk over the rest of a lineage starts with the names before it.
-/

namespace HandlerRouting.Library
variable {l : Library} {container definer c : ClassId} {name : String}

theorem member_none_iff : l.member? c name = none ↔ ¬ l.Defines c name := by
  simp only [member?, Defines, Entries.keys, List.lookup_eq_none_iff, List.mem_map, not_exists,
    not_and, bne_iff_ne, ne_eq]
  constructor
  · intro other entry member same
    exact other entry member same.symm
  · intro absent entry member same
    exact absent entry member same.symm

theorem defines_of_member {member : Member} (found : l.member? c name = some member) :
    l.Defines c name := List.mem_map_of_mem (Entries.mem_of_lookup found)

theorem NamesOnce.members (namesOnce : l.NamesOnce) (c : ClassId) :
    (Entries.keys (l.membersOf c)).Nodup := by
  unfold membersOf
  cases found : l.bodies.lookup c with
  | none => simp [Entries.keys]
  | some body => exact namesOnce (c, body) (Entries.mem_of_lookup found)

def fresh (l : Library) (seen : List String) (c : ClassId) : List String :=
  (Entries.keys (l.membersOf c)).filter (!seen.contains ·)

theorem fresh_distinct (namesOnce : l.NamesOnce) (seen : List String) (c : ClassId) :
    (l.fresh seen c).Nodup :=
  (namesOnce.members c).filter _

theorem mem_fresh {seen : List String} :
    name ∈ l.fresh seen c ↔ l.Defines c name ∧ name ∉ seen := by
  simp [fresh, Defines]

theorem names_from_cons (seen : List String) (rest : List ClassId) :
    l.namesFrom seen (c :: rest) =
      (l.fresh seen c).map (c, ·) ++ l.namesFrom (seen ++ l.fresh seen c) rest := rfl

def FirstOf (l : Library) (definer : ClassId) (name : String) (classes : List ClassId) : Prop :=
  ∃ below above, classes = below ++ definer :: above ∧ l.Defines definer name ∧
    ∀ c ∈ below, ¬ l.Defines c name

theorem first_of_cons {rest : List ClassId} :
    l.FirstOf definer name (c :: rest) ↔
      c = definer ∧ l.Defines c name ∨ ¬ l.Defines c name ∧ l.FirstOf definer name rest := by
  constructor
  · rintro ⟨below, above, split, defines, first⟩
    rcases List.cons_eq_append_iff.mp split with ⟨rfl, found⟩ | ⟨tail, rfl, behind⟩
    · cases found
      exact Or.inl ⟨rfl, defines⟩
    · have bound := List.forall_mem_cons.mp first
      exact Or.inr ⟨bound.1, tail, above, behind, defines, bound.2⟩
  · rintro (⟨rfl, defines⟩ | ⟨silent, below, above, rfl, defines, first⟩)
    · exact ⟨[], rest, rfl, defines, by simp⟩
    · exact ⟨c :: below, above, rfl, defines, List.forall_mem_cons.mpr ⟨silent, first⟩⟩

theorem mem_names_from {seen : List String} {classes : List ClassId} :
    (definer, name) ∈ l.namesFrom seen classes ↔
      name ∉ seen ∧ l.FirstOf definer name classes := by
  induction classes generalizing seen with
  | nil => simp [namesFrom, FirstOf]
  | cons c rest ih =>
    have here : (definer, name) ∈ (l.fresh seen c).map (c, ·) ↔
        c = definer ∧ l.Defines c name ∧ name ∉ seen := by
      simp only [List.mem_map, mem_fresh, Prod.mk.injEq]
      constructor
      · rintro ⟨_, found, same, rfl⟩
        exact ⟨same, found⟩
      · rintro ⟨same, found⟩
        exact ⟨name, found, same, rfl⟩
    rw [names_from_cons, List.mem_append, here, ih, first_of_cons, List.mem_append, mem_fresh]
    tauto

theorem names_from_apart {seen : List String} {classes : List ClassId} :
    ∀ entry ∈ l.namesFrom seen classes, entry.2 ∉ seen :=
  fun _ member => (mem_names_from.mp member).1

theorem names_from_distinct (namesOnce : l.NamesOnce) (seen : List String)
    (classes : List ClassId) :
    ((l.namesFrom seen classes).map Prod.snd).Nodup := by
  induction classes generalizing seen with
  | nil => simp [namesFrom]
  | cons c rest ih =>
    rw [names_from_cons, List.map_append, List.nodup_append]
    refine ⟨?_, ih _, ?_⟩
    · simpa [Function.comp_def] using fresh_distinct namesOnce seen c
    · intro a early b late same
      obtain ⟨entry, member, rfl⟩ := List.mem_map.mp late
      apply names_from_apart entry member
      simp only [List.map_map, Function.comp_def, List.map_id'] at early
      exact List.mem_append_right seen (same ▸ early)

theorem names_from_ordered (namesOnce : l.NamesOnce) (seen : List String)
    (classes : List ClassId) :
    (l.namesFrom seen classes).Pairwise (l.Precedes classes) := by
  induction classes generalizing seen with
  | nil => simp [namesFrom]
  | cons c rest ih =>
    -- A class that comes again defines nothing new, so the names behind are those of others.
    have others : ∀ entry ∈ l.namesFrom (seen ++ l.fresh seen c) rest, c ≠ entry.1 := by
      rintro ⟨definer, name⟩ member rfl
      obtain ⟨unseen, below, above, _, defines, _⟩ := mem_names_from.mp member
      simp [mem_fresh, defines] at unseen
    rw [names_from_cons, List.pairwise_append]
    refine ⟨?_, ?_, ?_⟩
    · rw [List.pairwise_map]
      have ordered := (idx_of_pairwise (namesOnce.members c)).filter (!seen.contains ·)
      exact ordered.imp fun earlier => Or.inr ⟨rfl, earlier⟩
    · refine (ih _).imp_of_mem ?_
      rintro a b left right (nearer | same)
      · left
        rw [List.idxOf_cons_ne rest (others a left), List.idxOf_cons_ne rest (others b right)]
        exact Nat.succ_lt_succ nearer
      · exact Or.inr same
    · intro a early b late
      obtain ⟨_, _, rfl⟩ := List.mem_map.mp early
      left
      rw [List.idxOf_cons_self, List.idxOf_cons_ne rest (others b late)]
      exact Nat.succ_pos _

/-! The levels of a container are its lineage without the root, which can only be its last class. -/

theorem root_last_of_append {classes : List ClassId}
    (split : l.hierarchy.lineage container = classes ++ [Hierarchy.rootClass])
    (absent : Hierarchy.rootClass ∉ classes) : l.RootLast container := by
  intro below above other
  have same := split.symm.trans other
  rcases List.append_eq_append_iff.mp same with ⟨between, rfl, behind⟩ | ⟨between, rfl, behind⟩
  · cases between with
    | nil => simpa using behind.symm
    | cons c rest => simp at behind
  · cases between with
    | nil => simpa using behind
    | cons c rest =>
      rw [List.cons_append, List.cons.injEq] at behind
      simp [← behind.1] at absent

theorem levels_append (rootLast : l.RootLast container) :
    Hierarchy.rootClass ∉ l.levels container ∧
      (l.hierarchy.lineage container = l.levels container ∨
        l.hierarchy.lineage container = l.levels container ++ [Hierarchy.rootClass]) := by
  refine ⟨by simp [levels], ?_⟩
  by_cases rooted : Hierarchy.rootClass ∈ l.hierarchy.lineage container
  · obtain ⟨below, above, split, absent⟩ := List.eq_append_cons_of_mem rooted
    have last : above = [] := rootLast below above split
    have kept : l.levels container = below := by
      rw [levels, split, last, List.filter_append, List.filter_eq_self.mpr]
      · simp
      · intro c member
        simpa using ne_of_mem_of_not_mem member absent
    right
    rw [kept, split, last]
  · left
    symm
    apply List.filter_eq_self.mpr
    intro c member
    simpa using ne_of_mem_of_not_mem member rooted

theorem FirstDefines.below_silent (rootLast : l.RootLast container) {above : List ClassId}
    (first : l.FirstDefines container definer name above) :
    ∃ below, l.hierarchy.lineage container = below ++ definer :: above ∧
      ∀ c ∈ below, ¬ l.Defines c name := by
  obtain ⟨below, split, silent⟩ := first.first
  refine ⟨below, split, ?_⟩
  intro c member
  apply silent c member
  rintro rfl
  obtain ⟨front, back, rfl⟩ := List.append_of_mem member
  have last := rootLast front (back ++ definer :: above) (by simp [split])
  simp at last

theorem first_of_levels (rootLast : l.RootLast container) :
    l.FirstOf definer name (l.levels container) ↔
      ∃ above, l.FirstDefines container definer name above := by
  obtain ⟨rootless, whole⟩ := levels_append rootLast
  constructor
  · rintro ⟨below, above, split, defines, silent⟩
    have notRoot : definer ≠ Hierarchy.rootClass := by
      rintro rfl
      exact rootless (by simp [split])
    have first : ∀ c ∈ below, c ≠ Hierarchy.rootClass → ¬ l.Defines c name :=
      fun c member _ => silent c member
    rcases whole with rootless | rooted
    · exact ⟨above, defines, notRoot, below, by rw [rootless, split], first⟩
    · exact ⟨above ++ [Hierarchy.rootClass], defines, notRoot, below, by simp [rooted, split],
        first⟩
  · rintro ⟨above, first⟩
    obtain ⟨below, split, silent⟩ := first.below_silent rootLast
    refine ⟨below.filter (· ≠ Hierarchy.rootClass), above.filter (· ≠ Hierarchy.rootClass), ?_,
      first.defines, ?_⟩
    · simp [levels, split, List.filter_append, first.notRoot]
    · intro c member
      exact silent c (List.mem_of_mem_filter member)

theorem mem_defined_names (rootLast : l.RootLast container) :
    (definer, name) ∈ l.definedNames container ↔
      ∃ above, l.FirstDefines container definer name above := by
  rw [definedNames, mem_names_from, first_of_levels rootLast]
  simp

theorem defined_names_ordered (rootLast : l.RootLast container) (namesOnce : l.NamesOnce) :
    (l.definedNames container).Pairwise (l.Precedes (l.hierarchy.lineage container)) := by
  refine (names_from_ordered namesOnce [] (l.levels container)).imp_of_mem ?_
  have inLevels : ∀ entry ∈ l.namesFrom [] (l.levels container), entry.1 ∈ l.levels container := by
    intro entry member
    obtain ⟨_, below, above, split, _⟩ := mem_names_from.mp member
    simp [split]
  have place : ∀ entry ∈ l.namesFrom [] (l.levels container),
      (l.hierarchy.lineage container).idxOf entry.1 = (l.levels container).idxOf entry.1 := by
    intro entry member
    rcases (levels_append rootLast).2 with rootless | rooted
    · rw [rootless]
    · rw [rooted, List.idxOf_append_of_mem (inLevels entry member)]
  rintro a b left right (nearer | same)
  · exact Or.inl (by rwa [place a left, place b right])
  · exact Or.inr same

end HandlerRouting.Library
