import HandlerRouting.Entries
import HandlerRouting.Proofs.TypeExpr.Forming

/-!
What is remembered by a search. A steady search forgets nothing, and what it has found it finds
again, whatever else has become known since. Searches that are made of steady ones are steady, so
none of them has to be looked into for this.
-/

namespace HandlerRouting.Search
variable {α β : Type}

theorem bind_apply (x : Search α) (f : α → Search β) (m : TypeMemory) :
    (x >>= f) m =
      match x m with
      | (some a, after) => f a after
      | (none, after) => (none, after) := rfl

theorem bind_some_iff {x : Search α} {f : α → Search β} {m after : TypeMemory} {b : β} :
    (x >>= f) m = (some b, after) ↔
      ∃ a between, x m = (some a, between) ∧ f a between = (some b, after) := by
  rw [bind_apply]
  rcases x m with ⟨_ | a, between⟩
  · simp
  · constructor
    · intro found
      exact ⟨a, between, rfl, found⟩
    · rintro ⟨_, _, same, found⟩
      cases same
      exact found

/-- A search that keeps what is known, finds what has some property, and finds it again. -/
structure Steady (P : α → Prop) (x : Search α) : Prop where
  sound : ∀ {m : TypeMemory}, m.Sound → (x m).2.Sound
  within : ∀ {m : TypeMemory}, m.Sound → m.Within (x m).2
  found : ∀ {m : TypeMemory} {a : α}, m.Sound → (x m).1 = some a → P a
  again : ∀ {m n : TypeMemory} {a : α}, m.Sound → n.Sound → (x m).1 = some a →
    (x m).2.Within n → (x n).1 = some a ∧ (x n).2.Within n

variable {P Q : α → Prop} {R : β → Prop}

theorem Steady.left {x : Search α} (steady : Steady P x) {m after : TypeMemory} {a : α}
    (sound : m.Sound) (here : x m = (some a, after)) :
    P a ∧ after.Sound ∧ m.Within after := by
  have holds := steady.found (a := a) sound
  have still := steady.sound sound
  have grown := steady.within sound
  rw [here] at holds still grown
  exact ⟨holds rfl, still, grown⟩

/-- What is found once more leaves behind no more than was known before. -/
theorem Steady.repeated {x : Search α} (steady : Steady P x) {m n after : TypeMemory} {a : α}
    (sound : m.Sound) (soundToo : n.Sound) (here : x m = (some a, after)) (later : after.Within n) :
    ∃ again, x n = (some a, again) ∧ again.Sound ∧ n.Within again ∧ again.Within n := by
  have found := steady.again (a := a) sound soundToo
  rw [here] at found
  obtain ⟨same, known⟩ := found rfl later
  have there : x n = (some a, (x n).2) := Prod.ext same rfl
  exact ⟨_, there, (steady.left soundToo there).2.1, (steady.left soundToo there).2.2, known⟩

theorem Steady.imp {x : Search α} (steady : Steady P x) (weaker : ∀ a, P a → Q a) :
    Steady Q x where
  sound := steady.sound
  within := steady.within
  found ok here := weaker _ (steady.found ok here)
  again := steady.again

theorem Steady.pure {a : α} (holds : P a) : Steady P (pure a) where
  sound ok := ok
  within _ := .refl _
  found _ here := by
    obtain rfl := Option.some.inj here
    exact holds
  again _ _ here _ := ⟨here, .refl _⟩

theorem Steady.nothing : Steady P Search.nothing where
  sound ok := ok
  within _ := .refl _
  found _ here := by cases here
  again _ _ here _ := by cases here

theorem Steady.of_option {given : Option α} (holds : ∀ a, given = some a → P a) :
    Steady P (ofOption given) := by
  cases given with
  | none => exact .nothing
  | some a => exact .pure (holds a rfl)

theorem Steady.bind {x : Search α} {f : α → Search β} (first : Steady P x)
    (second : ∀ a, P a → Steady R (f a)) : Steady R (x >>= f) where
  sound {m} ok := by
    have still := first.sound ok
    have holds := fun a => first.found (a := a) ok
    rw [bind_apply]
    generalize x m = outcome at still holds ⊢
    obtain ⟨_ | a, between⟩ := outcome
    · exact still
    · exact (second a (holds a rfl)).sound still
  within {m} ok := by
    have near := first.within ok
    have still := first.sound ok
    have holds := fun a => first.found (a := a) ok
    rw [bind_apply]
    generalize x m = outcome at near still holds ⊢
    obtain ⟨_ | a, between⟩ := outcome
    · exact near
    · exact near.trans ((second a (holds a rfl)).within still)
  found {m b} ok here := by
    obtain ⟨a, between, found, further⟩ := bind_some_iff.mp (Prod.ext here rfl)
    have still := first.sound ok
    have holds := first.found (a := a) ok
    rw [found] at still holds
    exact (second a (holds rfl)).found still (congrArg Prod.fst further)
  again {m n b} ok okToo here later := by
    obtain ⟨a, between, found, further⟩ := bind_some_iff.mp (Prod.ext here rfl)
    have still := first.sound ok
    have holds := first.found (a := a) ok
    have repeated := first.again (a := a) ok okToo
    have near := first.within okToo
    have stillToo := first.sound okToo
    rw [found] at still holds repeated
    have steady := second a (holds rfl)
    replace later : (f a between).2.Within n := by
      rw [further]
      exact later
    obtain ⟨same, known⟩ := repeated rfl ((steady.within still).trans later)
    obtain ⟨sameToo, knownToo⟩ :=
      steady.again still stillToo (congrArg Prod.fst further) (later.trans near)
    rw [bind_apply]
    generalize x n = outcome at same known sameToo knownToo ⊢
    obtain ⟨_, after⟩ := outcome
    obtain rfl := same
    exact ⟨sameToo, knownToo.trans known⟩

theorem Steady.cons {x : Search α} {xs : Search (List α)} {P : α → Prop} {Q R : List α → Prop}
    (first : Steady P x) (others : Steady Q xs) (both : ∀ a as, P a → Q as → R (a :: as)) :
    Steady R (do
      let a ← x
      let as ← xs
      return a :: as) :=
  first.bind fun a here => others.bind fun as behind => .pure (both a as here behind)

/-! ## Unions -/

open TypeExpr

theorem steady_unite {parts : List TypeExpr} (formed : ∀ part ∈ parts, part.Formed) :
    Steady (fun t => t.Joinable ∧ ((∀ part ∈ parts, part.isText = false) → Gathers parts t))
      (forming fun m => .ok (unite parts m)) where
  sound ok := unite_sound ok formed
  within _ := unite_within formed
  found ok here := by
    obtain rfl := Option.some.inj here
    exact ⟨unite_joinable ok formed, gathers_unite ok formed⟩
  again {m n t} _ _ here later := by
    obtain rfl := Option.some.inj here
    have same := unite_known (later.unions parts _ (find_united parts m))
    simp only [forming, same]
    exact ⟨rfl, .refl n⟩

theorem forming_bar_cases (h : Hierarchy) (left right : TypeExpr) :
    forming (bar h left right) = forming (fun m => .ok (unite [left, right] m)) ∨
      (left.isText = false ∧ right.isText = false ∧
        forming (bar h left right) = pure (joined true [left.memberOfBar, right.memberOfBar])) ∨
      (∃ a b, left = int a ∧ right = int b ∧
        forming (bar h left right) = pure (int (joinBits a b))) ∨
      forming (bar h left right) = nothing := by
  unfold bar
  split
  · exact .inl rfl
  · split
    · next takes =>
      simp only [Bool.and_eq_true] at takes
      refine .inr (.inl ⟨?_, ?_, rfl⟩)
      · cases left <;> simp_all [takesBar, isText]
      · cases right <;> simp_all [takesBar, isText]
    · split
      · exact .inr (.inr (.inl ⟨_, _, rfl, rfl, rfl⟩))
      · exact .inr (.inr (.inr rfl))

theorem steady_bar {h : Hierarchy} {left right : TypeExpr} (formed : left.Formed)
    (formedToo : right.Formed) : Steady (fun t => t.Formed ∧
      (left.isText = false → right.isText = false → (∀ n, left ≠ int n) →
        Gathers [left, right] t)) (forming (bar h left right)) := by
  have inside : ∀ part ∈ [left, right], part.Formed := by simp [formed, formedToo]
  have both : left.isText = false → right.isText = false →
      ∀ part ∈ [left, right], part.isText = false := by simp +contextual
  rcases forming_bar_cases h left right with united | ⟨type, typeToo, made⟩ | ⟨a, b, rfl, _, made⟩ |
      none
  · rw [united]
    refine (steady_unite inside).imp fun t united => ⟨united.1.formed, ?_⟩
    exact fun type typeToo _ => united.2 (both type typeToo)
  · rw [made]
    have gathered := gathers_joined inside (both type typeToo) inside (same_all_refl _) true
    exact .pure ⟨gathered.formed, fun _ _ _ => gathered⟩
  · rw [made]
    exact .pure ⟨.int _, fun _ _ number => absurd rfl (number a)⟩
  · rw [none]
    exact .nothing

theorem steady_listed {parts : List TypeExpr} (formed : ∀ part ∈ parts, part.Formed) :
    Steady (fun t => t.Joinable ∧ ((∀ part ∈ parts, part.isText = false) → Gathers parts t))
      (forming (listed parts)) := by
  cases parts with
  | nil => exact .nothing
  | cons => exact steady_unite formed

theorem find_forward (m : TypeMemory) (i j : Option Nat) (name : String) (rest : List TypeExpr) :
    m.find? (forward i name :: rest) = m.find? (forward j name :: rest) := by
  have alike : ∀ parts, sameAll parts (forward i name :: rest) =
      sameAll parts (forward j name :: rest) := by
    intro parts
    cases parts with
    | nil => rfl
    | cons part others =>
      simp only [sameAll]
      cases part <;> rfl
  simp only [TypeMemory.find?, alike]

theorem steady_optional {part : TypeExpr} (formed : part.Formed) :
    Steady (fun t => t.Joinable ∧ (part.isText = false → Gathers [part, none] t))
      (forming fun m => .ok (part.optional m)) := by
  cases type : part.isText with
  | false =>
    have listed : (forming fun m => .ok (part.optional m)) =
        forming fun m => .ok (unite ([part, none].map memberOfBar) m) := by
      simp only [TypeExpr.optional, as_member_of_type type]
      rfl
    have members : ∀ member ∈ [part, none].map memberOfBar,
        member.Formed ∧ member.isText = false := by
      simp only [List.map_cons, List.map_nil, List.forall_mem_cons, List.not_mem_nil]
      refine ⟨⟨formed.member_of_bar, ?_⟩, ⟨.cls _, rfl⟩, by simp⟩
      cases part <;> simp_all [memberOfBar, isText]
    rw [listed]
    refine (steady_unite fun member among => (members member among).1).imp fun t united => ?_
    exact ⟨united.1, fun _ => (united.2 fun member among => (members member among).2).of_members⟩
  | true =>
    obtain ⟨name, rfl⟩ : ∃ name, part = text name := by
      cases part <;> simp_all [isText]
    have inside : ∀ i, ∀ member ∈ [forward i name, cls Hierarchy.noneClass], member.Formed := by
      simp [Formed.forward, Formed.cls]
    let named := fun m : TypeMemory => { m with names := m.names + 1 }
    have still : ∀ m, m.Sound → (named m).Sound := fun m ok => ok.of_same rfl rfl
    constructor
    case sound => exact fun {m} ok => unite_sound (still m ok) (inside _)
    case within =>
      intro m ok
      have grown : m.Within (named m) := .of_same rfl rfl
      exact grown.trans (unite_within (inside (some m.names)))
    case found =>
      intro m t ok here
      obtain rfl := Option.some.inj here
      exact ⟨unite_joinable (still m ok) (inside (some m.names)), by simp⟩
    case again =>
      intro m n t ok okToo here later
      obtain rfl := Option.some.inj here
      have known : n.find? [forward (some m.names) name, cls Hierarchy.noneClass] = some _ :=
        later.unions _ _ (find_united _ (named m))
      rw [find_forward _ _ (some n.names)] at known
      have same : (text name).optional n = (_, named n) := unite_known known
      simp only [forming, same]
      exact ⟨rfl, .of_same rfl rfl⟩

/-! ## Names -/

theorem keep_known {identity : Nat} {t u : TypeExpr} {m : TypeMemory}
    (kept : (keep identity t m).1 = some u) :
    (keep identity t m).2.meanings.lookup identity = some u := by
  unfold keep at kept ⊢
  split at kept
  · next known =>
    simp only [known]
    exact kept
  · obtain rfl := Option.some.inj kept
    simp

theorem steady_keep {identity : Nat} {t : TypeExpr} (joinable : t.Joinable) :
    Steady Joinable (keep identity t) where
  sound {m} ok := by
    unfold keep
    split
    · exact ok
    · exact ⟨ok.formed, ok.united, List.forall_mem_cons.mpr ⟨joinable, ok.known⟩⟩
  within {m} ok := by
    unfold keep
    split
    · exact .refl m
    · next new =>
      refine ⟨fun _ _ => id, fun other u known => ?_⟩
      have differs : other ≠ identity := by
        rintro rfl
        simp [new] at known
      have other : (other == identity) = false := by simpa using differs
      simpa only [List.lookup_cons, other] using known
  found {m u} ok here := by
    unfold keep at here
    split at here
    · next known =>
      obtain rfl := Option.some.inj here
      exact ok.known _ (Entries.mem_of_lookup known)
    · obtain rfl := Option.some.inj here
      exact joinable
  again {m n u} _ _ here later := by
    have known := later.meanings identity u (keep_known here)
    simp only [keep, known]
    exact ⟨trivial, .refl n⟩

theorem bind_keep_known {identity : Nat} {x : Search TypeExpr} {u : TypeExpr} {m : TypeMemory}
    (kept : ((x >>= keep identity) m).1 = some u) :
    ((x >>= keep identity) m).2.meanings.lookup identity = some u := by
  obtain ⟨t, between, _, further⟩ := bind_some_iff.mp (Prod.ext kept rfl)
  have known := keep_known (congrArg Prod.fst further)
  rwa [further] at known

theorem steady_once {identity : Option Nat} {x : Search TypeExpr} (steady : Steady Joinable x) :
    Steady Joinable (once identity x) := by
  cases identity with
  | none => exact steady
  | some identity =>
    have kept : Steady Joinable (x >>= keep identity) := steady.bind fun _ => steady_keep
    have cases_on : ∀ m, (∃ t, m.meanings.lookup identity = some t ∧
        once (some identity) x m = (some t, m)) ∨
          once (some identity) x m = (x >>= keep identity) m := by
      intro m
      cases known : m.meanings.lookup identity with
      | some t => exact .inl ⟨t, rfl, by simp [once, known]⟩
      | none => exact .inr (by simp [once, known])
    constructor
    case sound =>
      intro m ok
      rcases cases_on m with ⟨t, _, same⟩ | same
      · rwa [same]
      · rw [same]
        exact kept.sound ok
    case within =>
      intro m ok
      rcases cases_on m with ⟨t, _, same⟩ | same
      · rw [same]
        exact .refl m
      · rw [same]
        exact kept.within ok
    case found =>
      intro m u ok here
      rcases cases_on m with ⟨t, known, same⟩ | same
      · rw [same] at here
        obtain rfl := Option.some.inj here
        exact ok.known _ (Entries.mem_of_lookup known)
      · rw [same] at here
        exact kept.found ok here
    case again =>
      intro m n u ok okToo here later
      have known : n.meanings.lookup identity = some u := by
        refine later.meanings identity u ?_
        rcases cases_on m with ⟨t, known, same⟩ | same
        · rw [same] at here ⊢
          exact known.trans here
        · rw [same] at here ⊢
          exact bind_keep_known here
      simp only [once, known]
      exact ⟨trivial, .refl n⟩

end HandlerRouting.Search
