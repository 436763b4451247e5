import HandlerRouting.Container.Override
import HandlerRouting.Proofs.Container.Discovery
import HandlerRouting.Proofs.Hierarchy.Linearization

/-!
Names that a class inherits. Whether a name declares a handler is read off the whole lineage, and
the lineage of an upper class is left when the other classes are taken out of that of the lower one.
So both classes have the same names where the lower one only defines handlers anew, and under each
of them the same mark.
-/

namespace HandlerRouting

namespace Member
variable {member : Member}

theorem mark_of_unmarked (unmarked : member.isUnmarkedFunction = true) : member.mark? = none := by
  cases member with
  | callable | value => cases unmarked
  | function body | staticFunction body | classFunction body =>
    exact Option.isNone_iff_eq_none.mp unmarked

theorem access_of_unmarked (unmarked : member.isUnmarkedFunction = true) (container : ClassId)
    (instance? : Option String) : (member.access container instance?).isSome = true := by
  cases member with
  | callable | value => cases unmarked
  | function | staticFunction | classFunction => rfl

theorem access_some_through (container other : ClassId) (instance? : Option String) :
    (member.access container instance?).isSome = (member.access other instance?).isSome := by
  cases member <;> rfl

end Member

namespace Library
variable {l : Library}

def HasName (l : Library) (container : ClassId) (name : String) : Prop :=
  ∃ c ∈ l.hierarchy.lineage container, c ≠ Hierarchy.rootClass ∧ l.Defines c name

section Declared
variable {container definer : ClassId} {instance? : Option Instance} {name : String} {mark : Mark}
  {found : Access}

theorem nearest_mark_append {below rest : List ClassId}
    (silent : ∀ c ∈ below, ¬ l.Defines c name) :
    l.nearestMark name (below ++ rest) = l.nearestMark name rest := by
  have passed : below.findSome? (fun c => (l.member? c name).bind Member.mark?) = none := by
    apply List.findSome?_eq_none_iff.mpr
    intro c member
    rw [member_none_iff.mpr (silent c member), Option.bind_none]
  rw [nearestMark, List.findSome?_append, passed, Option.none_or]
  rfl

theorem exists_first_of {classes : List ClassId} {c : ClassId} (member : c ∈ classes)
    (defines : l.Defines c name) : ∃ definer, l.FirstOf definer name classes := by
  induction classes with
  | nil => cases member
  | cons first rest ih =>
    by_cases here : l.Defines first name
    · exact ⟨first, first_of_cons.mpr (Or.inl ⟨rfl, here⟩)⟩
    · have behind : c ∈ rest := by
        rcases List.mem_cons.mp member with rfl | later
        · exact absurd defines here
        · exact later
      obtain ⟨definer, found⟩ := ih behind
      exact ⟨definer, first_of_cons.mpr (Or.inr ⟨here, found⟩)⟩

/-- A name declares a handler by what the whole lineage says of it. -/
theorem exists_declares_iff (rootLast : l.RootLast container) :
    (∃ definer, l.Declares container instance? definer name mark found) ↔
      l.HasName container name ∧
      l.nearestMark name (l.hierarchy.lineage container) = some mark ∧
      l.callable? container instance? name = some found := by
  constructor
  · rintro ⟨definer, declares⟩
    obtain ⟨above, first, nearest⟩ := declares.declared
    obtain ⟨below, split, silent⟩ := first.below_silent rootLast
    refine ⟨⟨definer, by simp [split], first.notRoot, first.defines⟩, ?_, declares.callable⟩
    rw [split, nearest_mark_append silent]
    exact nearest_mark_iff.mpr nearest
  · rintro ⟨⟨c, member, notRoot, defines⟩, marked, called⟩
    have level : c ∈ l.levels container := by simp [levels, member, notRoot]
    obtain ⟨definer, leading⟩ := exists_first_of level defines
    obtain ⟨above, first⟩ := (first_of_levels rootLast).mp leading
    obtain ⟨below, split, silent⟩ := first.below_silent rootLast
    refine ⟨definer, ⟨above, first, ?_⟩, called⟩
    rw [split, nearest_mark_append silent] at marked
    exact nearest_mark_iff.mp marked

end Declared

section Named
variable {container : ClassId} {name : String} {a : Handler}

theorem named_handlers_of_map (l : Library) (container : ClassId) (m : TypeMemory)
    (names : List (ClassId × String)) :
    (l.namedHandlersOf container m names).map Prod.snd = l.handlersOf container none m names := by
  induction names generalizing m with
  | nil => rfl
  | cons entry rest ih =>
    obtain ⟨definer, name⟩ := entry
    rw [namedHandlersOf, handlersOf]
    cases l.handlerOf container none m definer name with
    | none => exact ih m
    | some made => exact congrArg (made.1 :: ·) (ih made.2)

theorem mem_handlers_iff : a ∈ l.handlers container none ↔
    ∃ name, (name, a) ∈ l.namedHandlers container := by
  rw [handlers, ← named_handlers_of_map, List.mem_map]
  constructor
  · rintro ⟨⟨name, _⟩, member, rfl⟩
    exact ⟨name, member⟩
  · rintro ⟨name, member⟩
    exact ⟨(name, a), member, rfl⟩

theorem declares_of_named (rootLast : l.RootLast container) {names : List (ClassId × String)}
    (firsts : ∀ entry ∈ names, ∃ above, l.FirstDefines container entry.1 entry.2 above)
    {m : TypeMemory} (member : (name, a) ∈ l.namedHandlersOf container m names) :
    ∃ definer mark found before, l.Declares container none definer name mark found ∧
      a = l.described definer name mark found before := by
  induction names generalizing m with
  | nil => cases member
  | cons entry rest ih =>
    obtain ⟨definer, own⟩ := entry
    obtain ⟨⟨above, first⟩, behind⟩ := List.forall_mem_cons.mp firsts
    rw [namedHandlersOf] at member
    cases made : l.handlerOf container none m definer own with
    | none =>
      rw [made] at member
      exact ih behind member
    | some result =>
      obtain ⟨mark, found, declares⟩ := declares_of_handler rootLast first made
      rw [handler_of_some rootLast declares] at member
      rcases List.mem_cons.mp member with same | later
      · cases same
        exact ⟨definer, mark, found, m, declares, rfl⟩
      · exact ih behind later

theorem named_of_declares (rootLast : l.RootLast container) {names : List (ClassId × String)}
    {definer : ClassId} {mark : Mark} {found : Access} (member : (definer, name) ∈ names)
    (declares : l.Declares container none definer name mark found) (m : TypeMemory) :
    ∃ before, (name, l.described definer name mark found before) ∈
      l.namedHandlersOf container m names := by
  induction names generalizing m with
  | nil => cases member
  | cons entry rest ih =>
    rcases List.mem_cons.mp member with rfl | later
    · rw [namedHandlersOf, handler_of_some rootLast declares]
      exact ⟨m, List.mem_cons_self⟩
    · rw [namedHandlersOf]
      cases l.handlerOf container none m entry.1 entry.2 with
      | none => exact ih later m
      | some made =>
        obtain ⟨before, listed⟩ := ih later made.2
        exact ⟨before, List.mem_cons_of_mem _ listed⟩

theorem declared_of_named (rootLast : l.RootLast container)
    (member : (name, a) ∈ l.namedHandlers container) :
    ∃ mark found, (∃ definer, l.Declares container none definer name mark found) ∧
      a.exceptions = mark.exceptions ∧ a.mediaTypes = mark.mediaTypes := by
  have firsts : ∀ entry ∈ l.definedNames container,
      ∃ above, l.FirstDefines container entry.1 entry.2 above := by
    rintro ⟨definer, name⟩ defined
    exact (mem_defined_names rootLast).mp defined
  obtain ⟨definer, mark, found, before, declares, rfl⟩ :=
    declares_of_named rootLast firsts member
  exact ⟨mark, found, ⟨definer, declares⟩, rfl, rfl⟩

theorem exists_named (rootLast : l.RootLast container) {mark : Mark} {found : Access}
    (declared : ∃ definer, l.Declares container none definer name mark found) :
    ∃ a, (name, a) ∈ l.namedHandlers container := by
  obtain ⟨definer, declares⟩ := declared
  obtain ⟨above, first, _⟩ := declares.declared
  have listed := (mem_defined_names rootLast).mpr ⟨above, first⟩
  obtain ⟨before, member⟩ := named_of_declares rootLast listed declares l.types
  exact ⟨_, member⟩

end Named

section Inheritance
variable {base derived : ClassId} {name : String}

theorem find_some_of_silent {α : Type} {f : ClassId → Option α} {kept : ClassId → Bool}
    {classes : List ClassId} (silent : ∀ c ∈ classes, kept c = false → f c = none) :
    (classes.filter kept).findSome? f = classes.findSome? f := by
  induction classes with
  | nil => rfl
  | cons c rest ih =>
    obtain ⟨here, behind⟩ := List.forall_mem_cons.mp silent
    cases keep : kept c with
    | true =>
      rw [List.filter_cons_of_pos keep, List.findSome?_cons, List.findSome?_cons, ih behind]
    | false =>
      rw [List.filter_cons_of_neg (by simp [keep]), List.findSome?_cons, here keep, ih behind]

theorem root_last_of_built (built : l.hierarchy.Built)
    (rooted : ∀ c < l.hierarchy.classes.length, Hierarchy.rootClass ∈ l.hierarchy.lineage c)
    (c : ClassId) : l.RootLast c := by
  intro below above split
  apply List.eq_nil_iff_forall_not_mem.mpr
  intro behind member
  have inLineage : behind ∈ l.hierarchy.lineage c := by simp [split, member]
  have there := built.ancestor_there inLineage
  obtain ⟨ancestors, first⟩ := built.lineage_head there
  have after : [Hierarchy.rootClass, behind].Sublist (l.hierarchy.lineage c) := by
    rw [split]
    exact ((List.singleton_sublist.mpr member).cons_cons _).trans (List.sublist_append_right ..)
  have distinct := built.lineage_nodup c
  have other : behind ≠ Hierarchy.rootClass := by
    rintro rfl
    exact absurd (distinct.sublist after) (by simp)
  have before : [behind, Hierarchy.rootClass].Sublist (l.hierarchy.lineage behind) := by
    have root := rooted behind there
    rw [first] at root ⊢
    have inAncestors := (List.mem_cons.mp root).resolve_left other.symm
    exact (List.singleton_sublist.mpr inAncestors).cons_cons _
  exact Hierarchy.not_sublist_swap distinct after (before.trans (built.lineage_sublist inLineage))

theorem RootLast.of_descends (built : l.hierarchy.Built) (rootLast : l.RootLast derived)
    (descends : base ∈ l.hierarchy.lineage derived) : l.RootLast base := by
  have part := built.lineage_filter descends
  intro below above split
  have rootInBase : Hierarchy.rootClass ∈ l.hierarchy.lineage base := by simp [split]
  have rootInDerived := (built.lineage_sublist descends).mem rootInBase
  obtain ⟨front, back, whole, absent⟩ := List.eq_append_cons_of_mem rootInDerived
  have last : back = [] := rootLast front back whole
  rw [whole, last, List.filter_append, List.filter_cons_of_pos (by simpa using rootInBase),
    List.filter_nil] at part
  refine root_last_of_append part.symm ?_ below above split
  intro again
  exact absent (List.mem_of_mem_filter again)

theorem mark_inherited (built : l.hierarchy.Built) (overrides : l.Overrides base derived)
    (nothingElse : l.NothingElse base derived) (name : String) :
    l.nearestMark name (l.hierarchy.lineage base) =
      l.nearestMark name (l.hierarchy.lineage derived) := by
  have part := built.lineage_filter overrides.descends
  cases marked : l.nearestMark name (l.hierarchy.lineage derived) with
  | none =>
    have unmarked := List.findSome?_eq_none_iff.mp marked
    apply List.findSome?_eq_none_iff.mpr
    intro c member
    exact unmarked c ((built.lineage_sublist overrides.descends).mem member)
  | some mark =>
    rw [← part, ← marked]
    apply find_some_of_silent
    intro c member outside
    have notInBase : c ∉ l.hierarchy.lineage base := by simpa using outside
    cases found : l.member? c name with
    | none => rfl
    | some own =>
      by_cases lower : c = derived
      · subst lower
        exact Member.mark_of_unmarked (overrides.unmarked _ (Entries.mem_of_lookup found))
      · rw [nothingElse c member lower notInBase name (defines_of_member found)] at marked
        cases marked

theorem attribute_inherited (built : l.hierarchy.Built)
    (descends : base ∈ l.hierarchy.lineage derived)
    (silent : ∀ c ∈ l.hierarchy.lineage derived, c ∉ l.hierarchy.lineage base →
      ¬ l.Defines c name) :
    l.attribute? base name = l.attribute? derived name := by
  rw [attribute?, ← built.lineage_filter descends]
  apply find_some_of_silent
  intro c member outside
  exact member_none_iff.mpr (silent c member (by simpa using outside))

theorem callable_some_iff (container : ClassId) (name : String) :
    (l.callable? container none name).isSome = true ↔
      ∃ member, l.attribute? container name = some member ∧
        (member.access container none).isSome = true := by
  simp [callable?, Option.isSome_bind, Option.any_eq_true]

theorem exists_declared_iff {container : ClassId} (rootLast : l.RootLast container) {mark : Mark} :
    (∃ found definer, l.Declares container none definer name mark found) ↔
      l.HasName container name ∧
      l.nearestMark name (l.hierarchy.lineage container) = some mark ∧
      (l.callable? container none name).isSome = true := by
  simp only [exists_declares_iff rootLast, exists_and_left, Option.isSome_iff_exists]

theorem Overrides.replaced (built : l.hierarchy.Built) (overrides : l.Overrides base derived)
    (defines : l.Defines derived name) :
    l.HasName derived name ∧ (l.callable? derived none name).isSome = true := by
  obtain ⟨ancestors, first⟩ :=
    built.lineage_head (Hierarchy.there_of_mem_lineage overrides.descends)
  have notRoot : derived ≠ Hierarchy.rootClass := by
    rintro rfl
    have lowest := Nat.le_zero.mp (built.ancestor_le overrides.descends)
    exact overrides.differs lowest.symm
  refine ⟨⟨derived, by simp [first], notRoot, defines⟩, ?_⟩
  cases found : l.member? derived name with
  | none => exact absurd defines (member_none_iff.mp found)
  | some own =>
    have unmarked := overrides.unmarked _ (Entries.mem_of_lookup found)
    refine (callable_some_iff derived name).mpr ⟨own, ?_, Member.access_of_unmarked unmarked _ _⟩
    simp [attribute?, first, found]

theorem NothingElse.left_alone (built : l.hierarchy.Built) (overrides : l.Overrides base derived)
    (nothingElse : l.NothingElse base derived) (undefined : ¬ l.Defines derived name) {mark : Mark}
    (marked : l.nearestMark name (l.hierarchy.lineage derived) = some mark) :
    (l.HasName base name ↔ l.HasName derived name) ∧
      ((l.callable? base none name).isSome = true ↔
        (l.callable? derived none name).isSome = true) := by
  have within := built.lineage_sublist overrides.descends
  have silent : ∀ c ∈ l.hierarchy.lineage derived, c ∉ l.hierarchy.lineage base →
      ¬ l.Defines c name := by
    intro c member outside defines
    by_cases lower : c = derived
    · exact undefined (lower ▸ defines)
    · rw [nothingElse c member lower outside name defines] at marked
      cases marked
  constructor
  · constructor
    · rintro ⟨c, member, defines⟩
      exact ⟨c, within.mem member, defines⟩
    · rintro ⟨c, member, defines⟩
      refine ⟨c, ?_, defines⟩
      apply Decidable.byContradiction
      intro outside
      exact silent c member outside defines.2
  · simp only [callable_some_iff, attribute_inherited built overrides.descends silent,
      Member.access_some_through base derived]

theorem declares_override_iff (built : l.hierarchy.Built) (rootLast : l.RootLast derived)
    (overrides : l.Overrides base derived) (nothingElse : l.NothingElse base derived)
    (mark : Mark) :
    (∃ found definer, l.Declares base none definer name mark found) ↔
      ∃ found definer, l.Declares derived none definer name mark found := by
  have rootLastToo := rootLast.of_descends built overrides.descends
  rw [exists_declared_iff rootLast, exists_declared_iff rootLastToo,
    mark_inherited built overrides nothingElse]
  -- A name that the lower class defines is handled in the upper one; so both can be called.
  by_cases defines : l.Defines derived name
  · obtain ⟨defined, called⟩ := overrides.replaced built defines
    obtain ⟨entry, body, rfl⟩ := List.mem_map.mp defines
    obtain ⟨⟨named, a⟩, member, same⟩ := List.mem_map.mp (overrides.handled entry body)
    obtain rfl : named = entry.1 := same
    obtain ⟨own, found, declared, _⟩ := declared_of_named rootLastToo member
    obtain ⟨definedToo, _, calledToo⟩ := (exists_declared_iff rootLastToo).mp ⟨found, declared⟩
    simp only [defined, called, definedToo, calledToo]
  · constructor
    · rintro ⟨defined, marked, called⟩
      obtain ⟨sameDefined, sameCalled⟩ :=
        nothingElse.left_alone built overrides defines marked
      exact ⟨sameDefined.mp defined, marked, sameCalled.mp called⟩
    · rintro ⟨defined, marked, called⟩
      obtain ⟨sameDefined, sameCalled⟩ :=
        nothingElse.left_alone built overrides defines marked
      exact ⟨sameDefined.mpr defined, marked, sameCalled.mpr called⟩

end Inheritance

end Library

end HandlerRouting
