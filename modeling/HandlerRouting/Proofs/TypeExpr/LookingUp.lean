import HandlerRouting.Proofs.TypeExpr.Remembering

/-!
Looking names up. What is settled stays as it is and leaves the memory alone. All else comes out fit
to be joined with others, with the classes that were written in it; and it comes out the same when
it is looked up once more.
-/

namespace HandlerRouting

namespace TypeExpr

variable {h : Hierarchy} {lookUp : Option Nat → String → Search TypeExpr}

/-! ## Annotations -/

theorem as_annotation_eq (t : TypeExpr) : t.asAnnotation = t.memberOfBar := by
  cases t <;> rfl

theorem Formed.annotated {t : TypeExpr} (formed : t.Formed) : t.asAnnotation.Formed :=
  as_annotation_eq t ▸ formed.member_of_bar

theorem as_annotation_not_none (t : TypeExpr) : t.asAnnotation ≠ none := by
  cases t <;> exact nofun

theorem as_annotation_of_standing {t : TypeExpr} (standing : t.StandsForItself h) :
    t.asAnnotation = t := (as_annotation_eq t).trans (member_of_bar standing.1)

theorem as_annotations_formed {ts : List TypeExpr} (formed : ∀ t ∈ ts, t.Formed) :
    ∀ t ∈ ts.map asAnnotation, t.Formed := by
  simpa using fun t among => (formed t among).annotated

theorem settled_annotation {t : TypeExpr} (settled : t.settled h = true) :
    t.asAnnotation.settled h = true := by
  cases t <;> exact settled

/-! ## Lists -/

theorem resolve_all_cons_iff (t : TypeExpr) (rest found : List TypeExpr) (m after : TypeMemory) :
    resolveAll h lookUp (t :: rest) m = (some found, after) ↔
      ∃ first between others, resolve h lookUp t m = (some first, between) ∧
        resolveAll h lookUp rest between = (some others, after) ∧ found = first :: others := by
  rw [resolveAll, Search.bind_some_iff]
  constructor
  · rintro ⟨first, between, here, further⟩
    obtain ⟨others, last, behind, whole⟩ := Search.bind_some_iff.mp further
    obtain ⟨same, rfl⟩ := Prod.mk.inj whole
    exact ⟨first, between, others, here, behind, (Option.some.inj same).symm⟩
  · rintro ⟨first, between, others, here, behind, rfl⟩
    exact ⟨first, between, here, Search.bind_some_iff.mpr ⟨others, after, behind, rfl⟩⟩

theorem resolve_all_append_iff (front back found : List TypeExpr) (m after : TypeMemory) :
    resolveAll h lookUp (front ++ back) m = (some found, after) ↔
      ∃ first between others, resolveAll h lookUp front m = (some first, between) ∧
        resolveAll h lookUp back between = (some others, after) ∧ found = first ++ others := by
  induction front generalizing m found with
  | nil =>
    constructor
    · intro whole
      exact ⟨[], m, found, rfl, whole, rfl⟩
    · rintro ⟨first, between, others, here, whole, rfl⟩
      obtain ⟨same, rfl⟩ := Prod.mk.inj here
      obtain rfl := Option.some.inj same
      exact whole
  | cons t rest ih =>
    simp only [List.cons_append, resolve_all_cons_iff, ih]
    constructor
    · rintro ⟨one, middle, _, here, ⟨first, between, others, near, far, rfl⟩, rfl⟩
      exact ⟨one :: first, between, others, ⟨one, middle, first, here, near, rfl⟩, far, rfl⟩
    · rintro ⟨_, between, others, ⟨one, middle, first, here, near, rfl⟩, far, rfl⟩
      exact ⟨one, middle, first ++ others, here, ⟨first, between, others, near, far, rfl⟩, rfl⟩

theorem resolve_all_length {ts found : List TypeExpr} {m after : TypeMemory}
    (looked : resolveAll h lookUp ts m = (some found, after)) : found.length = ts.length := by
  induction ts generalizing m found with
  | nil =>
    obtain rfl := Option.some.inj (Prod.mk.inj looked).1
    rfl
  | cons t rest ih =>
    obtain ⟨_, _, others, _, behind, rfl⟩ := (resolve_all_cons_iff ..).mp looked
    simp [ih behind]

theorem resolve_all_unchanged {ts : List TypeExpr}
    (each : ∀ t ∈ ts, ∀ m, resolve h lookUp t m = (some t, m)) (m : TypeMemory) :
    resolveAll h lookUp ts m = (some ts, m) := by
  induction ts with
  | nil => rfl
  | cons t rest ih =>
    obtain ⟨first, others⟩ := List.forall_mem_cons.mp each
    exact (resolve_all_cons_iff ..).mpr ⟨t, m, rest, first m, ih others, rfl⟩

theorem resolve_settled {t : TypeExpr} (settled : t.settled h = true) (m : TypeMemory) :
    resolve h lookUp t m = (some t, m) := by
  induction t using nested_induction generalizing m with
  | generic origin args ih =>
    simp only [TypeExpr.settled, Bool.and_eq_true, settled_all_iff] at settled
    have inside := resolve_all_unchanged (fun t among => ih t among (settled.2 t among)) m
    rw [resolve, if_pos settled.1, Search.bind_apply, inside]
    rfl
  | union barred parts ih =>
    rw [TypeExpr.settled, settled_all_iff] at settled
    have inside := resolve_all_unchanged (fun t among => ih t among (settled t among)) m
    rw [resolve, Search.bind_apply, inside]
    simp only [reunited, same_all_refl, ↓reduceIte]
    rfl
  | text | forward => simp [TypeExpr.settled] at settled
  | _ => rfl

theorem resolve_all_settled {ts : List TypeExpr} (settled : ∀ t ∈ ts, t.settled h = true)
    (m : TypeMemory) : resolveAll h lookUp ts m = (some ts, m) :=
  resolve_all_unchanged (fun t among => resolve_settled (settled t among)) m

/-! ## What is found -/

/-- What looking up can make of a type expression. -/
structure Meaning (t found : TypeExpr) : Prop where
  formed : found.Formed
  joinable : t ≠ none → found.Joinable
  classes : ∀ c, cls c ∈ t.flat → cls c ∈ found.flat

theorem Meaning.self {t : TypeExpr} (formed : t.Formed) (joinable : t ≠ none → t.Joinable) :
    Meaning t t := ⟨formed, joinable, fun _ => id⟩

theorem Meaning.of_name {t found : TypeExpr} (name : ∀ c, cls c ∉ t.flat)
    (joinable : found.Joinable) : Meaning t found where
  formed := joinable.formed
  joinable _ := joinable
  classes c among := absurd among (name c)

theorem Gathers.meaning {barred : Bool} {parts found : List TypeExpr} {t : TypeExpr}
    (gathered : Gathers found t) (joinable : t.Joinable)
    (each : List.Forall₂ Meaning parts found) : Meaning (union barred parts) t where
  formed := gathered.formed
  joinable _ := joinable
  classes c among := by
    obtain ⟨part, there, meaning⟩ := exists_related each.flip among
    have own := meaning.classes c (List.mem_singleton_self _)
    rw [← (meaning.joinable nofun).brought_eq] at own
    obtain ⟨u, within, near⟩ := gathered.complete part there _ own
    rw [joinable.brought_eq] at within
    exact (same_cls_iff c u).mp near ▸ within

theorem members_joinable {parts found : List TypeExpr}
    (members : ∀ part ∈ parts, part.isMember = true) (each : List.Forall₂ Meaning parts found) :
    ∀ t ∈ found, t.Joinable := by
  intro t among
  obtain ⟨part, listed, meaning⟩ := exists_related each among
  refine meaning.joinable ?_
  rintro rfl
  cases members none listed

theorem steady_reunited {barred : Bool} {parts found : List TypeExpr}
    (formed : (union barred parts).Formed) (each : List.Forall₂ Meaning parts found) :
    Search.Steady (Meaning (union barred parts)) (reunited barred parts found) := by
  have members : ∀ part ∈ parts, part.isMember = true := by
    cases formed with | union members _ _ => exact members
  have joinable := members_joinable members each
  have shaped := fun t among => (joinable t among).formed
  have types := fun t among => (joinable t among).type
  unfold reunited
  split
  · exact .pure (.self formed fun _ => .of_union formed)
  · split
    · have own : found.map memberOfBar = found := by
        refine (List.map_congr_left fun t among => ?_).trans (List.map_id found)
        exact member_of_bar (joinable t among).not_none
      have gathered := gathers_joined shaped types shaped (same_all_refl found) true
      rw [own] at gathered
      exact .pure (gathered.meaning (joined_joinable joinable true) each)
    · exact (Search.steady_unite shaped).imp fun t united =>
        (united.2 types).meaning united.1 each

section Resolving
variable (steady : ∀ identity name, Search.Steady Joinable (lookUp identity name))

theorem steady_resolve_all {ts : List TypeExpr}
    (each : ∀ t ∈ ts, Search.Steady (Meaning t) (resolve h lookUp t)) :
    Search.Steady (List.Forall₂ Meaning ts) (resolveAll h lookUp ts) := by
  induction ts with
  | nil => exact .pure .nil
  | cons t rest ih =>
    obtain ⟨first, others⟩ := List.forall_mem_cons.mp each
    exact first.cons (ih others) fun _ _ => .cons

include steady

theorem steady_resolve {t : TypeExpr} (formed : t.Formed) :
    Search.Steady (Meaning t) (resolve h lookUp t) := by
  induction formed with
  | text name => exact (steady Option.none name).imp fun _ => .of_name (by simp [flat])
  | forward identity name => exact (steady identity name).imp fun _ => .of_name (by simp [flat])
  | @generic origin args inside ih =>
    rw [resolve]
    split
    · refine (steady_resolve_all ih).bind fun found each => .pure ?_
      have formed : (generic origin found).Formed := by
        refine .generic fun t among => ?_
        obtain ⟨_, _, meaning⟩ := exists_related each among
        exact meaning.formed
      exact ⟨formed, fun _ => .of_member formed rfl, by simp [flat]⟩
    · exact .nothing
  | @union barred parts members inside distinct ih =>
    rw [resolve]
    exact (steady_resolve_all ih).bind fun found =>
      steady_reunited (.union members inside distinct)
  | none => exact .pure (.self .none fun value => absurd rfl value)
  | cls | int | object =>
    exact .pure (.self (by constructor) fun _ => .of_member (by constructor) rfl)

theorem steady_resolve_annotations {ts : List TypeExpr} (formed : ∀ t ∈ ts, t.Formed) :
    Search.Steady (List.Forall₂ Meaning ts) (resolveAll h lookUp ts) :=
  steady_resolve_all fun t among => steady_resolve steady (formed t among)

end Resolving

end TypeExpr

/-! ## Texts -/

variable {h : Hierarchy}

namespace Expression

theorem steady_form_all {es : List Expression}
    (each : ∀ e ∈ es, Search.Steady TypeExpr.Formed (e.form h)) :
    Search.Steady (fun ts => ∀ t ∈ ts, t.Formed) (formAll h es) := by
  induction es with
  | nil => exact .pure nofun
  | cons e rest ih =>
    obtain ⟨first, others⟩ := List.forall_mem_cons.mp each
    exact first.cons (ih others) fun _ _ here behind => List.forall_mem_cons.mpr ⟨here, behind⟩

theorem steady_form {e : Expression} (formed : e.Formed) :
    Search.Steady TypeExpr.Formed (e.form h) := by
  induction formed with
  | value formed => exact .pure formed
  | listed _ ih =>
    exact (steady_form_all ih).bind fun ts formed =>
      (Search.steady_listed formed).imp fun _ united => united.1.formed
  | optional _ ih =>
    exact ih.bind fun t formed =>
      (Search.steady_optional formed).imp fun _ united => united.1.formed
  | bar _ _ first second =>
    exact first.bind fun t formed => second.bind fun u formedToo =>
      (Search.steady_bar formed formedToo).imp fun _ joined => joined.1
  | made makes _ ih =>
    exact (steady_form_all ih).bind fun ts formed =>
      .of_option fun t made => makes ts t formed made

end Expression

namespace Scope
variable {scope : Scope}

theorem steady_look_up_within {evaluate : String → Search TypeExpr}
    (steady : ∀ name, Search.Steady TypeExpr.Joinable (evaluate name)) (within : List String)
    (identity : Option Nat) (name : String) :
    Search.Steady TypeExpr.Joinable (lookUpWithin evaluate within identity name) := by
  unfold lookUpWithin
  split
  · exact .pure (.of_member (.forward identity name) rfl)
  · exact Search.steady_once (steady name)

theorem steady_evaluate (formed : scope.Formed) (depth : Nat) (within : List String)
    (name : String) : Search.Steady TypeExpr.Joinable (scope.evaluate h depth within name) := by
  induction depth generalizing within name with
  | zero => exact .nothing
  | succ depth ih =>
    refine (Search.Steady.of_option (formed name)).bind fun e shaped =>
      (Expression.steady_form shaped).bind fun t formed => ?_
    have inside := steady_look_up_within (ih (name :: within)) (name :: within)
    exact (TypeExpr.steady_resolve inside formed.annotated).imp fun found meaning =>
      meaning.joinable (TypeExpr.as_annotation_not_none t)

/-- A text stands for what it reads as, once the names in that have been looked up. -/
theorem resolve_text_iff (name : String) (t : TypeExpr) (m after : TypeMemory) :
    TypeExpr.resolve h (scope.lookUp h) (.text name) m = (some t, after) ↔
      ∃ e u between, scope.read name = some e ∧ e.form h m = (some u, between) ∧
        u.asAnnotation.resolve h (lookUpWithin (scope.evaluate h scope.depth [name]) [name])
          between = (some t, after) := by
  change scope.evaluate h (scope.depth + 1) [] name m = (some t, after) ↔ _
  rw [evaluate, Search.bind_some_iff]
  simp only [Search.bind_some_iff]
  constructor
  · rintro ⟨e, here, reads, u, between, formed, found⟩
    cases read : scope.read name with
    | none => simp [read, Search.ofOption, Search.nothing] at reads
    | some other =>
      rw [read] at reads
      obtain ⟨same, rfl⟩ := Prod.mk.inj reads
      obtain rfl := Option.some.inj same
      exact ⟨other, u, between, rfl, formed, found⟩
  · rintro ⟨e, u, between, read, formed, found⟩
    refine ⟨e, m, ?_, u, between, formed, found⟩
    rw [read]
    rfl

theorem steady_look_up (formed : scope.Formed) (identity : Option Nat) (name : String) :
    Search.Steady TypeExpr.Joinable (scope.lookUp h identity name) :=
  steady_look_up_within (steady_evaluate formed _ _) [] identity name

end Scope

end HandlerRouting
