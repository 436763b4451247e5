import HandlerRouting.Distinct
import Mathlib.Data.List.Forall2

/-!
Lists that are related item by item, and lists whose items have partners in each other.
-/

namespace HandlerRouting
variable {α β ε : Type} {R : α → β → Prop}

theorem exists_related {as : List α} {bs : List β} (each : List.Forall₂ R as bs) {b : β}
    (listed : b ∈ bs) : ∃ a ∈ as, R a b := by
  induction each with
  | nil => cases listed
  | @cons a _ _ _ related _ ih =>
    rcases List.mem_cons.mp listed with rfl | later
    · exact ⟨a, List.mem_cons_self, related⟩
    · obtain ⟨a, among, found⟩ := ih later
      exact ⟨a, List.mem_cons_of_mem _ among, found⟩

theorem exists_related_iff (as : List α) :
    (∃ bs, List.Forall₂ R as bs) ↔ ∀ a ∈ as, ∃ b, R a b := by
  induction as with
  | nil => simp
  | cons a rest ih =>
    simp only [List.forall₂_cons_left_iff, List.forall_mem_cons, ← ih]
    constructor
    · rintro ⟨_, b, bs, first, others, rfl⟩
      exact ⟨⟨b, first⟩, bs, others⟩
    · rintro ⟨⟨b, first⟩, bs, others⟩
      exact ⟨_, b, bs, first, others, rfl⟩

theorem related_back {S : β → α → Prop} {as : List α} {bs : List β}
    (back : ∀ a ∈ as, ∀ b, R a b → S b a) (each : List.Forall₂ R as bs) :
    List.Forall₂ S bs as := by
  induction each with
  | nil => exact .nil
  | cons related _ ih =>
    obtain ⟨here, further⟩ := List.forall_mem_cons.mp back
    exact .cons (here _ related) (ih further)

theorem related_through {γ : Type} {S : β → γ → Prop} {T : α → γ → Prop} {as : List α}
    {bs : List β} {cs : List γ} (step : ∀ a ∈ as, ∀ b c, R a b → S b c → T a c)
    (first : List.Forall₂ R as bs) (second : List.Forall₂ S bs cs) : List.Forall₂ T as cs := by
  induction first generalizing cs with
  | nil =>
    cases second
    exact .nil
  | cons near _ ih =>
    cases second with
    | cons far behind =>
      obtain ⟨here, further⟩ := List.forall_mem_cons.mp step
      exact .cons (here _ _ near far) (ih further behind)

theorem map_eq_of_related {γ : Type} {f : α → γ} {g : β → γ} {as : List α} {bs : List β}
    (alike : ∀ a b, R a b → f a = g b) (each : List.Forall₂ R as bs) : as.map f = bs.map g := by
  induction each with
  | nil => rfl
  | cons related _ ih => rw [List.map_cons, List.map_cons, alike _ _ related, ih]

theorem map_m_ok_iff (f : α → Except ε β) (as : List α) (bs : List β) :
    as.mapM f = .ok bs ↔ List.Forall₂ (fun a b => f a = .ok b) as bs := by
  induction as generalizing bs with
  | nil => cases bs <;> simp [pure, Except.pure]
  | cons a rest ih =>
    rw [List.mapM_cons, List.forall₂_cons_left_iff]
    simp only [← ih]
    cases f a with
    | error failure => simp [bind, Except.bind]
    | ok b =>
      cases rest.mapM f with
      | error failure => simp [bind, Except.bind]
      | ok bs => simp [bind, Except.bind, pure, Except.pure, eq_comm]

/-- Where no two items share a partner and there are not more partners than items, each partner
belongs to an item. -/
theorem exists_partner {as : List α} {bs : List β} (length : as.length = bs.length)
    (partners : ∀ a ∈ as, ∃ b ∈ bs, R a b)
    (apart : as.Pairwise fun a other => ∀ b, R a b → ¬ R other b) :
    ∀ b ∈ bs, ∃ a ∈ as, R a b := by
  induction as generalizing bs with
  | nil =>
    rw [List.eq_nil_of_length_eq_zero length.symm]
    simp
  | cons a rest ih =>
    obtain ⟨⟨first, listed, related⟩, others⟩ := List.forall_mem_cons.mp partners
    obtain ⟨alone, apart⟩ := List.pairwise_cons.mp apart
    obtain ⟨front, back, rfl⟩ := List.append_of_mem listed
    have left : ∀ other ∈ rest, ∃ b ∈ front ++ back, R other b := by
      intro other among
      obtain ⟨b, there, found⟩ := others other among
      have differs : b ≠ first := by
        rintro rfl
        exact alone other among b related found
      exact ⟨b, by simpa [differs] using there, found⟩
    have fewer : rest.length = (front ++ back).length := by
      simp only [List.length_append, List.length_cons] at length ⊢
      omega
    intro b there
    by_cases same : b = first
    · exact ⟨a, List.mem_cons_self, same ▸ related⟩
    · obtain ⟨other, member, found⟩ := ih fewer left apart b (by simpa [same] using there)
      exact ⟨other, List.mem_cons_of_mem _ member, found⟩

end HandlerRouting
