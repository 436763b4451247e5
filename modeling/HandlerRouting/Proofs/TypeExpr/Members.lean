import HandlerRouting.Proofs.TypeExpr.Sameness
import HandlerRouting.TypeExpr.Widening

/-!
The members of type expressions. Joining keeps the members of its parts, each once; what is the same
has the same members.
-/

namespace HandlerRouting.TypeExpr

theorem mem_members_of_all (ts : List TypeExpr) (u : TypeExpr) :
    u ∈ membersOfAll ts ↔ ∃ t ∈ ts, u ∈ t.members := by
  induction ts with
  | nil => simp [membersOfAll]
  | cons t rest ih => simp [membersOfAll, ih]

theorem mem_members_iff (t u : TypeExpr) : u ∈ t.members ↔ t.Lists u := by
  induction t using nested_induction with
  | union barred parts ih =>
    rw [members, mem_members_of_all]
    constructor
    · rintro ⟨part, among, inside⟩
      exact .member among ((ih part among).mp inside)
    · rintro (⟨single, _⟩ | ⟨among, inside⟩)
      · exact absurd rfl (single barred parts)
      · exact ⟨_, among, (ih _ among).mpr inside⟩
  | cls c =>
    constructor
    · intro among
      by_cases value : c = Hierarchy.noneClass
      · simp [members, value] at among
      · obtain rfl : u = cls c := by simpa [members, value] using among
        exact .itself nofun (by simpa using value)
    · rintro ⟨_, value⟩
      have value : c ≠ Hierarchy.noneClass := fun own => value (own ▸ rfl)
      simp [members, value]
  | _ =>
    constructor
    · intro among
      obtain rfl := List.mem_singleton.mp among
      exact .itself nofun nofun
    · rintro ⟨_, _⟩
      exact List.mem_singleton_self _

theorem Lists.single {t u : TypeExpr} (lists : t.Lists u) :
    (∀ barred parts, u ≠ union barred parts) ∧ u ≠ cls Hierarchy.noneClass := by
  induction lists with
  | itself single value => exact ⟨single, value⟩
  | member _ _ ih => exact ih

/-! ## Members of what was formed -/

theorem flat_of_member {t : TypeExpr} (member : t.isMember = true) : t.flat = [t] := by
  cases t with
  | union => simp [isMember] at member
  | _ => rfl

theorem Formed.of_flat {t u : TypeExpr} (formed : t.Formed) (among : u ∈ t.flat) : u.Formed := by
  cases formed with
  | union _ inside _ => exact inside u among
  | _ =>
    obtain rfl := List.mem_singleton.mp among
    constructor
    all_goals assumption

theorem members_of_member {t : TypeExpr} (member : t.isMember = true) :
    t.members = [t].filter fun u => !same u (cls Hierarchy.noneClass) := by
  cases t with
  | cls c =>
    by_cases value : c = Hierarchy.noneClass
    · simp [members, same, value]
    · have other : (c == Hierarchy.noneClass) = false := by simpa using value
      simp [members, List.filter, same, value, other]
  | none | text | union => cases member
  | _ => simp [members, same]

theorem members_of_all_members {parts : List TypeExpr}
    (single : ∀ part ∈ parts, part.isMember = true) :
    membersOfAll parts = parts.filter fun u => !same u (cls Hierarchy.noneClass) := by
  induction parts with
  | nil => rfl
  | cons part rest ih =>
    obtain ⟨first, others⟩ := List.forall_mem_cons.mp single
    rw [membersOfAll, members_of_member first, ih others, ← List.filter_append,
      List.singleton_append]

theorem members_of_formed {t : TypeExpr} (formed : t.Formed) :
    t.members = t.flat.filter fun u => !same u (cls Hierarchy.noneClass) := by
  cases formed with
  | union single _ _ => exact members_of_all_members single
  | none | text => simp [members, flat, same]
  | _ => rw [members_of_member rfl, flat_of_member rfl]

theorem mem_members_of_formed {t u : TypeExpr} (formed : t.Formed) :
    u ∈ t.members ↔ u ∈ t.flat ∧ u ≠ cls Hierarchy.noneClass := by
  simp [members_of_formed formed, List.mem_filter, ← same_cls_iff]

theorem Formed.of_lists {t u : TypeExpr} (formed : t.Formed) (lists : t.Lists u) :
    u ∈ t.flat ∧ u.Formed := by
  have inside := ((mem_members_of_formed formed).mp ((mem_members_iff t u).mpr lists)).1
  exact ⟨inside, formed.of_flat inside⟩

theorem lists_not_none {t u : TypeExpr} (formed : t.Formed) (value : t ≠ none)
    (lists : t.Lists u) : u ≠ none := by
  have inside := (formed.of_lists lists).1
  cases formed with
  | union members _ _ =>
    rintro rfl
    cases members none inside
  | none => exact absurd rfl value
  | _ =>
    obtain rfl := List.mem_singleton.mp inside
    exact value

theorem settled_iff_flat {h : Hierarchy} (t : TypeExpr) :
    t.settled h = true ↔ ∀ u ∈ t.flat, u.settled h = true := by
  cases t with
  | union barred parts => rw [settled, settled_all_iff, flat]
  | _ => simp [flat]

theorem same_flat {t u : TypeExpr} (alike : same t u = true) :
    ∀ part ∈ t.flat, ∃ other ∈ u.flat, same part other = true := by
  cases t with
  | union barred parts =>
    cases u <;> simp only [same, Bool.and_eq_true, Bool.false_eq_true] at alike
    exact (all_in_iff ..).mp alike.2
  | _ =>
    cases u with
    | union => simp [same] at alike
    | _ =>
      intro part among
      obtain rfl := List.mem_singleton.mp among
      exact ⟨_, List.mem_singleton_self _, alike⟩

/-! ## Joining -/

theorem Joinable.not_none {t : TypeExpr} (joinable : t.Joinable) : t ≠ none := by
  rintro rfl
  cases joinable.members none (List.mem_singleton_self _)

theorem Joinable.of_member {t : TypeExpr} (formed : t.Formed) (member : t.isMember = true) :
    t.Joinable := by
  refine ⟨formed, fun u among => ?_⟩
  rw [flat_of_member member, List.mem_singleton] at among
  exact among ▸ member

theorem Joinable.of_union {barred : Bool} {parts : List TypeExpr}
    (formed : (union barred parts).Formed) : (union barred parts).Joinable := by
  refine ⟨formed, ?_⟩
  cases formed with | union members _ _ => exact members

section Joining
variable {parts : List TypeExpr} (joinable : ∀ part ∈ parts, part.Joinable)

include joinable

theorem flat_joined (barred : Bool) :
    (joined barred parts).flat = distinct (parts.flatMap flat) := by
  unfold joined
  split
  · next only found =>
    rw [found]
    have among : only ∈ distinct (parts.flatMap flat) := by simp [found]
    obtain ⟨part, listed, inside⟩ := List.mem_flatMap.mp ((distinct_sublist _).subset among)
    exact flat_of_member ((joinable part listed).members only inside)
  · rfl

theorem mem_flat_joined {barred : Bool} {t : TypeExpr} (among : t ∈ (joined barred parts).flat) :
    ∃ part ∈ parts, t ∈ part.flat := by
  rw [flat_joined joinable] at among
  exact List.mem_flatMap.mp ((distinct_sublist _).subset among)

theorem exists_flat_joined (barred : Bool) {part t : TypeExpr} (listed : part ∈ parts)
    (inside : t ∈ part.flat) : ∃ u ∈ (joined barred parts).flat, same u t = true := by
  rw [flat_joined joinable]
  exact exists_distinct (List.mem_flatMap.mpr ⟨part, listed, inside⟩)

theorem joined_joinable (barred : Bool) : (joined barred parts).Joinable := by
  have inside : ∀ t ∈ distinct (parts.flatMap flat), t.isMember = true ∧ t.Formed := by
    intro t among
    obtain ⟨part, listed, within⟩ := List.mem_flatMap.mp ((distinct_sublist _).subset among)
    exact ⟨(joinable part listed).members t within, (joinable part listed).formed.of_flat within⟩
  unfold joined
  split
  · next only found =>
    obtain ⟨member, formed⟩ := inside only (by simp [found])
    exact .of_member formed member
  · exact .of_union (.union (fun t among => (inside t among).1) (fun t among => (inside t among).2)
      (distinct_apart _))

end Joining

end HandlerRouting.TypeExpr
