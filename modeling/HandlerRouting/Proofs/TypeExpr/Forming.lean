import HandlerRouting.Proofs.TypeExpr.Members

/-!
Forming unions. However it is written, a union gathers what its parts bring into it, up to sameness,
and adds nothing. A memory of unions stays sound, and what it knows is not forgotten.
-/

namespace HandlerRouting

namespace TypeExpr

def brought (t : TypeExpr) : List TypeExpr := t.memberOfBar.flat

/-- A type expression with just the members that come from parts. -/
structure Gathers (parts : List TypeExpr) (t : TypeExpr) : Prop where
  formed : t.Formed
  type : t.isText = false
  within : ∀ u ∈ t.brought, ∃ part ∈ parts, ∃ v ∈ part.brought, same u v = true
  complete : ∀ part ∈ parts, ∀ v ∈ part.brought, ∃ u ∈ t.brought, same u v = true

/-! ## Parts as members -/

theorem type_of_same {t u : TypeExpr} (alike : same t u = true) (type : u.isText = false) :
    t.isText = false := by
  cases t <;> cases u <;> simp_all [same, isText]

theorem types_of_same {ts us : List TypeExpr} (alike : sameAll ts us = true)
    (types : ∀ u ∈ us, u.isText = false) : ∀ t ∈ ts, t.isText = false := by
  intro t among
  obtain ⟨u, there, near⟩ := exists_related ((same_all_iff ..).mp alike).flip among
  exact type_of_same near (types u there)

theorem Joinable.type {t : TypeExpr} (joinable : t.Joinable) : t.isText = false := by
  cases t with
  | text s => cases joinable.members (text s) (List.mem_singleton_self _)
  | _ => rfl

theorem Formed.as_member {t : TypeExpr} (formed : t.Formed) (m : TypeMemory) :
    (asMember m t).1.Joinable := by
  cases formed with
  | none => exact .of_member (.cls _) rfl
  | text => exact .of_member (.forward _ _) rfl
  | union single inside distinct => exact .of_union (.union single inside distinct)
  | generic inside => exact .of_member (.generic inside) rfl
  | cls | int | object | forward => exact .of_member (by constructor) rfl

theorem mem_as_members {m : TypeMemory} {parts : List TypeExpr} {u : TypeExpr}
    (among : u ∈ (asMembers m parts).1) :
    ∃ part ∈ parts, ∃ before, u = (asMember before part).1 := by
  induction parts generalizing m with
  | nil => simp [asMembers] at among
  | cons part rest ih =>
    rcases List.mem_cons.mp among with rfl | behind
    · exact ⟨part, List.mem_cons_self, m, rfl⟩
    · obtain ⟨other, listed, before, rfl⟩ := ih behind
      exact ⟨other, List.mem_cons_of_mem _ listed, before, rfl⟩

theorem as_members_joinable {m : TypeMemory} {parts : List TypeExpr}
    (formed : ∀ part ∈ parts, part.Formed) : ∀ u ∈ (asMembers m parts).1, u.Joinable := by
  intro u among
  obtain ⟨part, listed, before, rfl⟩ := mem_as_members among
  exact (formed part listed).as_member before

theorem as_member_of_type {t : TypeExpr} (type : t.isText = false) (m : TypeMemory) :
    asMember m t = (t.memberOfBar, m) := by
  cases t with
  | text => cases type
  | _ => rfl

theorem as_members_of_types {parts : List TypeExpr}
    (types : ∀ part ∈ parts, part.isText = false) (m : TypeMemory) :
    asMembers m parts = (parts.map memberOfBar, m) := by
  induction parts with
  | nil => rfl
  | cons part rest ih =>
    obtain ⟨first, others⟩ := List.forall_mem_cons.mp types
    simp only [asMembers, as_member_of_type first, ih others, List.map_cons]

theorem as_members_memory (m : TypeMemory) (parts : List TypeExpr) :
    (asMembers m parts).2.unions = m.unions ∧ (asMembers m parts).2.meanings = m.meanings := by
  induction parts generalizing m with
  | nil => exact ⟨rfl, rfl⟩
  | cons part rest ih =>
    obtain ⟨unions, meanings⟩ := ih (asMember m part).2
    cases part <;> exact ⟨unions, meanings⟩

/-! ## Unions as they are remembered -/

section Uniting
variable {m : TypeMemory} (sound : m.Sound) {parts : List TypeExpr}
  (formed : ∀ part ∈ parts, part.Formed)

include sound formed

theorem unite_spec : ∃ before alike, sameAll alike parts = true ∧ (∀ part ∈ alike, part.Formed) ∧
    (unite parts m).1 = joined false (asMembers before alike).1 := by
  unfold unite
  cases found : m.find? parts with
  | none => exact ⟨m, parts, same_all_refl parts, formed, rfl⟩
  | some t =>
    obtain ⟨entry, here, rfl⟩ := Option.map_eq_some_iff.mp found
    have listed := List.mem_of_find?_eq_some here
    obtain ⟨before, united⟩ := sound.united entry listed
    have alike : sameAll entry.1 parts = true := by simpa using List.find?_some here
    exact ⟨before, entry.1, alike, sound.formed entry listed, united⟩

theorem unite_joinable : (unite parts m).1.Joinable := by
  obtain ⟨before, alike, _, formed, united⟩ := unite_spec sound formed
  rw [united]
  exact joined_joinable (as_members_joinable formed) false

theorem unite_sound : (unite parts m).2.Sound := by
  unfold unite
  cases m.find? parts with
  | some t => exact sound
  | none =>
    obtain ⟨unions, meanings⟩ := as_members_memory m parts
    constructor
    · simp only [TypeMemory.remember, List.forall_mem_cons, unions]
      exact ⟨formed, sound.formed⟩
    · simp only [TypeMemory.remember, List.forall_mem_cons, unions]
      exact ⟨⟨m, rfl⟩, sound.united⟩
    · simp only [TypeMemory.remember, meanings]
      exact sound.known

omit sound in
/-- A union that is new takes the place of none that was known. -/
theorem unite_within : m.Within (unite parts m).2 := by
  unfold unite
  cases new : m.find? parts with
  | some t => exact .refl m
  | none =>
    obtain ⟨unions, meanings⟩ := as_members_memory m parts
    constructor
    · intro key t known
      simp only [TypeMemory.find?, TypeMemory.remember, List.find?_cons, unions]
      split
      · next alike =>
        obtain ⟨entry, here, _⟩ := Option.map_eq_some_iff.mp known
        have near : sameAll entry.1 key = true := by simpa using List.find?_some here
        have known := same_all_trans near (same_all_symm formed alike)
        have missing := List.find?_eq_none.mp (Option.map_eq_none_iff.mp new) entry
          (List.mem_of_find?_eq_some here)
        exact absurd known missing
      · exact known
    · intro identity t known
      simpa only [TypeMemory.remember, meanings] using known

end Uniting

theorem find_united (parts : List TypeExpr) (m : TypeMemory) :
    (unite parts m).2.find? parts = some (unite parts m).1 := by
  unfold unite
  cases found : m.find? parts with
  | some t => exact found
  | none => exact TypeMemory.find_remember ..

theorem unite_known {parts : List TypeExpr} {m : TypeMemory} {t : TypeExpr}
    (known : m.find? parts = some t) : unite parts m = (t, m) := by
  rw [unite, known]

/-! ## Gathering -/

theorem member_of_bar {t : TypeExpr} (value : t ≠ none) : t.memberOfBar = t := by
  cases t with
  | none => exact absurd rfl value
  | _ => rfl

theorem same_member_of_bar {t u : TypeExpr} (alike : same t u = true) :
    same t.memberOfBar u.memberOfBar = true := by
  by_cases nothing : t = none
  · subst nothing
    rw [(none_same_iff u).mp alike]
    exact same_refl _
  · have other : u ≠ none := fun missing => nothing ((same_none_iff t).mp (missing ▸ alike))
    rwa [member_of_bar nothing, member_of_bar other]

theorem Formed.member_of_bar {t : TypeExpr} (formed : t.Formed) : t.memberOfBar.Formed := by
  cases t with
  | none => exact .cls _
  | _ => exact formed

theorem settled_iff_brought {h : Hierarchy} (t : TypeExpr) :
    t.settled h = true ↔ ∀ u ∈ t.brought, u.settled h = true := by
  rw [brought, ← settled_iff_flat]
  cases t <;> rfl

theorem same_brought {t u : TypeExpr} (alike : same t u = true) :
    ∀ v ∈ t.brought, ∃ w ∈ u.brought, same v w = true :=
  same_flat (same_member_of_bar alike)

theorem Formed.of_brought {t u : TypeExpr} (formed : t.Formed) (among : u ∈ t.brought) : u.Formed :=
  formed.member_of_bar.of_flat among

theorem Joinable.brought_eq {t : TypeExpr} (joinable : t.Joinable) : t.brought = t.flat := by
  rw [brought, TypeExpr.member_of_bar joinable.not_none]

theorem gathers_joined {parts alike : List TypeExpr}
    (formed : ∀ part ∈ parts, part.Formed) (types : ∀ part ∈ parts, part.isText = false)
    (shaped : ∀ part ∈ alike, part.Formed) (related : sameAll alike parts = true) (barred : Bool) :
    Gathers parts (joined barred (alike.map memberOfBar)) := by
  have each := (same_all_iff ..).mp related
  have joinable : ∀ part ∈ alike.map memberOfBar, part.Joinable := by
    have members := as_members_joinable (m := {}) shaped
    rwa [as_members_of_types (types_of_same related types)] at members
  have whole := joined_joinable joinable barred
  refine ⟨whole.formed, whole.type, ?_, ?_⟩
  · intro u among
    rw [whole.brought_eq] at among
    obtain ⟨_, mapped, inside⟩ := mem_flat_joined joinable among
    obtain ⟨one, listed, rfl⟩ := List.mem_map.mp mapped
    obtain ⟨part, there, near⟩ := exists_related each.flip listed
    exact ⟨part, there, same_brought near u inside⟩
  · intro part listed v inside
    obtain ⟨one, there, near⟩ := exists_related each listed
    obtain ⟨w, within, far⟩ := same_brought ((shaped one there).same_symm near) v inside
    obtain ⟨u, found, same⟩ :=
      exists_flat_joined joinable barred (List.mem_map_of_mem there) within
    have back := ((formed part listed).of_brought inside).same_symm far
    exact ⟨u, whole.brought_eq ▸ found, same_trans same back⟩

theorem gathers_unite {m : TypeMemory} (sound : m.Sound) {parts : List TypeExpr}
    (formed : ∀ part ∈ parts, part.Formed) (types : ∀ part ∈ parts, part.isText = false) :
    Gathers parts (unite parts m).1 := by
  obtain ⟨before, alike, related, shaped, united⟩ := unite_spec sound formed
  rw [united, as_members_of_types (types_of_same related types)]
  exact gathers_joined formed types shaped related false

theorem brought_member_of_bar (t : TypeExpr) : t.memberOfBar.brought = t.brought := by
  cases t <;> rfl

theorem Gathers.of_members {parts : List TypeExpr} {t : TypeExpr}
    (gathered : Gathers (parts.map memberOfBar) t) : Gathers parts t where
  formed := gathered.formed
  type := gathered.type
  within u among := by
    obtain ⟨_, mapped, v, inside, near⟩ := gathered.within u among
    obtain ⟨part, listed, rfl⟩ := List.mem_map.mp mapped
    exact ⟨part, listed, v, brought_member_of_bar part ▸ inside, near⟩
  complete part listed v inside :=
    gathered.complete _ (List.mem_map_of_mem listed) v ((brought_member_of_bar part).symm ▸ inside)

theorem Gathers.settled {h : Hierarchy} {parts : List TypeExpr} {t : TypeExpr}
    (gathered : Gathers parts t) (settled : ∀ part ∈ parts, part.settled h = true) :
    t.settled h = true := by
  rw [settled_iff_brought]
  intro u among
  obtain ⟨part, listed, v, inside, near⟩ := gathered.within u among
  exact settled_of_same near ((settled_iff_brought part).mp (settled part listed) v inside)

theorem Gathers.self {t : TypeExpr} (formed : t.Formed) (type : t.isText = false) :
    Gathers [t] t where
  formed := formed
  type := type
  within u among := ⟨t, List.mem_singleton_self _, u, among, same_refl u⟩
  complete part listed v inside := by
    obtain rfl := List.mem_singleton.mp listed
    exact ⟨v, inside, same_refl v⟩

theorem Gathers.of_same {t u : TypeExpr} (formed : t.Formed) (type : t.isText = false)
    (formedToo : u.Formed) (alike : same u t = true) : Gathers [t] u where
  formed := formedToo
  type := type_of_same alike type
  within v among := ⟨t, List.mem_singleton_self _, same_brought alike v among⟩
  complete part listed v inside := by
    obtain rfl := List.mem_singleton.mp listed
    obtain ⟨w, there, near⟩ := same_brought (formedToo.same_symm alike) v inside
    exact ⟨w, there, (formed.of_brought inside).same_symm near⟩

theorem Gathers.through {groups : List (List TypeExpr)} {parts : List TypeExpr} {t : TypeExpr}
    (each : List.Forall₂ Gathers groups parts) (whole : Gathers parts t) :
    Gathers groups.flatten t where
  formed := whole.formed
  type := whole.type
  within u among := by
    obtain ⟨part, listed, v, inside, near⟩ := whole.within u among
    obtain ⟨group, there, gathered⟩ := exists_related each listed
    obtain ⟨own, member, w, within, far⟩ := gathered.within v inside
    exact ⟨own, List.mem_flatten.mpr ⟨group, there, member⟩, w, within, same_trans near far⟩
  complete own listed v inside := by
    obtain ⟨group, there, member⟩ := List.mem_flatten.mp listed
    obtain ⟨part, among, gathered⟩ := exists_related each.flip there
    obtain ⟨w, within, near⟩ := gathered.complete own member v inside
    obtain ⟨u, found, far⟩ := whole.complete part among w within
    exact ⟨u, found, same_trans far near⟩

/-! ## Bars -/

theorem Gathers.not_int {parts : List TypeExpr} {t : TypeExpr} (gathered : Gathers parts t)
    (formed : ∀ part ∈ parts, part.Formed) (types : ∀ part ∈ parts, ∀ n, ¬ part.Lists (int n))
    (n : Int) : t ≠ int n := by
  rintro rfl
  obtain ⟨part, listed, v, inside, near⟩ := gathered.within (int n) (List.mem_singleton_self _)
  obtain rfl : v = int n := by cases v <;> simp_all [same]
  have value : part ≠ none := by
    rintro rfl
    simp [brought, memberOfBar, flat] at inside
  rw [brought, TypeExpr.member_of_bar value] at inside
  have member := (mem_members_of_formed (formed part listed)).mpr ⟨inside, by simp⟩
  exact types part listed n ((mem_members_iff ..).mp member)

end TypeExpr

end HandlerRouting
