import HandlerRouting.Proofs.TypeExpr.LookingUp

/-!
Widened classes. A union gathers the values at its ends, however it is written. So a union of a
class with no value and with earlier types lists the class, and otherwise only what the earlier
types list.
-/

namespace HandlerRouting

open TypeExpr (Gathers)

variable {h : Hierarchy}

namespace Expression

theorem steady_gathered_all {es : List Expression} (ends : Expression → List TypeExpr)
    (each : ∀ e ∈ es, Search.Steady (Gathers (ends e)) (e.form h)) :
    Search.Steady (List.Forall₂ Gathers (es.map ends)) (formAll h es) := by
  induction es with
  | nil => exact .pure .nil
  | cons e rest ih =>
    obtain ⟨first, others⟩ := List.forall_mem_cons.mp each
    exact first.cons (ih others) fun _ _ => .cons

/-- A union gathers the types at its ends. -/
theorem Unites.steady {e : Expression} {ends : List TypeExpr} (unites : e.Unites h ends)
    (shaped : ∀ t ∈ ends, t.Formed ∧ t.isText = false) :
    Search.Steady (Gathers ends) (e.form h) := by
  induction unites with
  | value t =>
    obtain ⟨formed, type⟩ := shaped t (List.mem_singleton_self t)
    exact .pure (.self formed type)
  | made formed always =>
    obtain ⟨shape, type⟩ := shaped _ (List.mem_singleton_self _)
    have steady := steady_form (h := h) formed
    exact ⟨steady.sound, steady.within, fun ok found =>
      .of_same shape type (steady.found ok found) (always _ _ ok found), steady.again⟩
  | @listed parts ends _ ih =>
    have each : ∀ e ∈ parts, Search.Steady (Gathers (ends e)) (e.form h) := fun e among =>
      ih e among fun t inside => shaped t (List.mem_flatMap.mpr ⟨e, among, inside⟩)
    refine (steady_gathered_all ends each).bind fun ts gathered => ?_
    have parts : ∀ t ∈ ts, t.Formed ∧ t.isText = false := by
      intro t among
      obtain ⟨_, _, gathers⟩ := exists_related gathered among
      exact ⟨gathers.formed, gathers.type⟩
    refine (Search.steady_listed fun t among => (parts t among).1).imp fun u united => ?_
    exact .through gathered (united.2 fun t among => (parts t among).2)
  | optional _ ih =>
    refine (ih fun t inside => shaped t (List.mem_append_left _ inside)).bind fun t gathered => ?_
    refine (Search.steady_optional gathered.formed).imp fun u united => ?_
    simpa using Gathers.through
      (.cons gathered (.cons (.self .none rfl) .nil)) (united.2 gathered.type)
  | bar _ _ types first second =>
    refine (first fun t inside => shaped t (List.mem_append_left _ inside)).bind
      fun t gathered => ?_
    refine (second fun t inside => shaped t (List.mem_append_right _ inside)).bind
      fun u gatheredToo => ?_
    refine (Search.steady_bar gathered.formed gatheredToo.formed).imp fun v joined => ?_
    have number := gathered.not_int (fun t inside => (shaped t (List.mem_append_left _ inside)).1)
      types
    simpa using Gathers.through (.cons gathered (.cons gatheredToo .nil))
      (joined.2 gathered.type gatheredToo.type number)

end Expression

namespace TypeExpr

theorem lists_of_brought {t u : TypeExpr} (formed : t.Formed) (value : t ≠ none)
    (among : u ∈ t.brought) (other : u ≠ cls Hierarchy.noneClass) : t.Lists u := by
  rw [brought, member_of_bar value] at among
  exact (mem_members_iff t u).mp ((mem_members_of_formed formed).mpr ⟨among, other⟩)

section Adding
variable {c : ClassId} {earlier : List TypeExpr} (known : ∀ t ∈ earlier, t.Joinable)

include known

theorem AddsNothing.formed {part : TypeExpr} (adds : AddsNothing c earlier part) : part.Formed := by
  rcases adds with rfl | rfl | rfl | ⟨t, listed, rfl | lists⟩
  · exact .cls c
  · exact .none
  · exact .cls _
  · exact (known part listed).formed
  · exact ((known t listed).formed.of_lists lists).2

theorem AddsNothing.brought_cases {part u : TypeExpr} (adds : AddsNothing c earlier part)
    (among : u ∈ part.brought) :
    u = cls c ∨ u = cls Hierarchy.noneClass ∨ ∃ t ∈ earlier, t.Lists u := by
  by_cases other : u = cls Hierarchy.noneClass
  · exact Or.inr (Or.inl other)
  rcases adds with rfl | rfl | rfl | ⟨t, listed, rfl | lists⟩
  · exact Or.inl (List.mem_singleton.mp among)
  · exact absurd (List.mem_singleton.mp among) other
  · exact absurd (List.mem_singleton.mp among) other
  · have joinable := known part listed
    exact Or.inr (Or.inr ⟨part, listed,
      lists_of_brought joinable.formed joinable.not_none among other⟩)
  · have joinable := known t listed
    obtain ⟨single, _⟩ := lists.single
    have own : part.brought = [part] := by
      rw [brought, member_of_bar (lists_not_none joinable.formed joinable.not_none lists)]
      cases part with
      | union barred parts => exact absurd rfl (single barred parts)
      | _ => rfl
    obtain rfl := List.mem_singleton.mp (own ▸ among)
    exact Or.inr (Or.inr ⟨t, listed, lists⟩)

end Adding

end TypeExpr

namespace Expression
variable {c : ClassId} {earlier : List TypeExpr} {e : Expression} {ends : List TypeExpr}

theorem Widens.brings_own {t : TypeExpr} (widens : e.Widens h c earlier ends)
    (gathered : Gathers ends t) : .cls c ∈ t.brought := by
  obtain ⟨u, among, near⟩ := gathered.complete _ widens.own (.cls c) (List.mem_singleton_self _)
  exact (TypeExpr.same_cls_iff c u).mp near ▸ among

theorem Widens.settles {t : TypeExpr} (widens : e.Widens h c earlier ends)
    (gathered : Gathers ends t) : t.asAnnotation.settled h = true :=
  TypeExpr.settled_annotation (gathered.settled widens.settled)

section Widened
variable (known : ∀ t ∈ earlier, t.Joinable)

include known

theorem Widens.brings_no_more {t u : TypeExpr} (widens : e.Widens h c earlier ends)
    (gathered : Gathers ends t) (among : u ∈ t.brought) :
    u = .cls c ∨ u = .cls Hierarchy.noneClass ∨
      ∃ before ∈ earlier, ∃ v, before.Lists v ∧ TypeExpr.same v u = true := by
  obtain ⟨part, listed, v, inside, near⟩ := gathered.within u among
  rcases (widens.adds part listed).brought_cases known inside with
    rfl | rfl | ⟨before, there, lists⟩
  · exact Or.inl ((TypeExpr.same_cls_iff c u).mp near)
  · exact Or.inr (Or.inl ((TypeExpr.same_cls_iff _ u).mp near))
  · exact Or.inr (Or.inr ⟨before, there, v, lists,
      (gathered.formed.of_brought among).same_symm near⟩)

theorem Widens.steady (widens : e.Widens h c earlier ends) :
    Search.Steady (Gathers ends) (e.form h) := by
  refine widens.unites.steady fun t listed => ⟨(widens.adds t listed).formed known, ?_⟩
  have settled := widens.settled t listed
  cases t with
  | text => simp [TypeExpr.settled] at settled
  | _ => rfl

theorem Widens.written_formed {scope : Scope} {b : TypeExpr} (widens : e.Widens h c earlier ends)
    (writes : e.Writes h scope b) : b.Formed := by
  cases writes with
  | formed sound made => exact ((widens.steady known).found sound made).formed
  | text => exact .text _

theorem Widens.resolved {scope : Scope} {b : TypeExpr} (widens : e.Widens h c earlier ends)
    (writes : e.Writes h scope b) {m : TypeMemory} (sound : m.Sound) :
    ∃ t after, b.asAnnotation.resolve h (scope.lookUp h) m = (some t.asAnnotation, after) ∧
      Gathers ends t := by
  cases writes with
  | formed ok made =>
    have gathered := (widens.steady known).found ok made
    exact ⟨b, m, TypeExpr.resolve_settled (widens.settles gathered) m, gathered⟩
  | @text name reads forms =>
    obtain ⟨t, formed⟩ := Option.isSome_iff_exists.mp (forms m sound)
    have gathered := (widens.steady known).found sound formed
    refine ⟨t, (e.form h m).2, (Scope.resolve_text_iff ..).mpr ?_, gathered⟩
    exact ⟨e, t, _, reads, Prod.ext formed rfl,
      TypeExpr.resolve_settled (widens.settles gathered) _⟩

theorem Widens.resolved_here {scope : Scope} {b : TypeExpr} (widens : e.Widens h c earlier ends)
    (writes : e.Writes h scope b) (type : b.isText = false) (m : TypeMemory) :
    b.asAnnotation.resolve h (scope.lookUp h) m = (some b.asAnnotation, m) ∧
      Gathers ends b := by
  cases writes with
  | formed ok made =>
    have gathered := (widens.steady known).found ok made
    exact ⟨TypeExpr.resolve_settled (widens.settles gathered) m, gathered⟩
  | text => cases type

end Widened

end Expression

end HandlerRouting
