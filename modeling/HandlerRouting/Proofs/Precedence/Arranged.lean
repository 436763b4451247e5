import Mathlib.Data.List.Chain
import Mathlib.Order.Lattice
import HandlerRouting.Precedence

/-!
What a sort by runs and merges may do, whatever it compares: every run rises or falls, and every
element that a merge puts out has won a comparison with an element that it goes in front of. Ties
need not be transitive for this. Main statement: a set of elements that come before all others, as
far as the sort can ask, stands in front of the sorted list.
-/

namespace HandlerRouting.Sort
variable {α : Type}

/-- A merge of two sides. The last element of what is taken from one side at a time was compared
with the first one of the other side. -/
inductive Merged (ahead : α → α → Bool) : (left right merged : List α) → Prop where
  | left_over (left : List α) : Merged ahead left [] left
  | right_over (right : List α) : Merged ahead [] right right
  | take_left {x b : α} {left right merged : List α} (taken : List α) (held : ahead b x = false)
      (rest : Merged ahead left (b :: right) merged) :
      Merged ahead (taken ++ x :: left) (b :: right) (taken ++ x :: merged)
  | take_right {a y : α} {left right merged : List α} (taken : List α) (passes : ahead y a = true)
      (rest : Merged ahead (a :: left) right merged) :
      Merged ahead (a :: left) (taken ++ y :: right) (taken ++ y :: merged)

inductive Arranged (before : α → α → Bool) : (items arranged : List α) → Prop where
  | rising {run : List α} (rises : run.IsChain fun a b => before b a = false) :
      Arranged before run run
  | falling {run : List α} (falls : run.IsChain fun a b => before b a = true) :
      Arranged before run run.reverse
  | forward {left right leftRun rightRun merged : List α} (first : Arranged before left leftRun)
      (second : Arranged before right rightRun) (meets : Merged before leftRun rightRun merged) :
      Arranged before (left ++ right) merged
  | backward {left right leftRun rightRun merged : List α} (first : Arranged before left leftRun)
      (second : Arranged before right rightRun)
      (meets : Merged (fun a b => before b a) rightRun.reverse leftRun.reverse merged) :
      Arranged before (left ++ right) merged.reverse

theorem Merged.perm {ahead : α → α → Bool} {left right merged : List α}
    (meets : Merged ahead left right merged) : merged.Perm (left ++ right) := by
  induction meets with
  | left_over left => simp
  | right_over right => simp
  | take_left taken _ _ ih =>
    rw [List.append_assoc, List.cons_append]
    exact (ih.cons _).append_left taken
  | @take_right a y left right merged taken _ _ ih =>
    have moved : (taken ++ y :: merged).Perm ((taken ++ [y]) ++ (a :: left ++ right)) := by
      simpa using (ih.cons y).append_left taken
    refine moved.trans ?_
    have swapped : (taken ++ [y] ++ a :: left).Perm (a :: left ++ (taken ++ [y])) :=
      List.perm_append_comm
    simpa using swapped.append_right right

theorem Arranged.perm {before : α → α → Bool} {items arranged : List α}
    (given : Arranged before items arranged) : arranged.Perm items := by
  induction given with
  | rising _ => exact .refl _
  | falling _ => exact List.reverse_perm _
  | forward _ _ meets first second => exact meets.perm.trans (first.append second)
  | backward _ _ meets first second =>
    have sides := ((List.reverse_perm _).trans meets.perm).trans List.perm_append_comm
    have turned := sides.trans ((List.reverse_perm _).append (List.reverse_perm _))
    exact turned.trans (first.append second)

/-- The elements that belong to a set stand in front of the others. -/
def Leads (belongs : α → Bool) (run : List α) : Prop :=
  run.Pairwise fun a b => belongs b = true → belongs a = true

/-- A sort can only ask whether a later element comes before an earlier one. This says that the
answer always brings the members of the set to the front. -/
def Cut (before : α → α → Bool) (belongs : α → Bool) (items : List α) : Prop :=
  items.Pairwise fun a b => belongs a ≠ belongs b → before b a = belongs b

/-- What belongs is cut off from the rest when it comes before all of it, and nothing of the rest
comes before it. -/
theorem cut_of_separated {belongs : α → Bool} {items : List α}
    (separated : ∀ a ∈ items, ∀ b ∈ items, belongs a = true → belongs b = false →
      before a b = true ∧ before b a = false) : Cut before belongs items := by
  apply List.pairwise_of_forall_mem_list
  intro a ofA b ofB apart
  cases held : belongs b with
  | true => exact (separated b ofB a ofA held (by simpa [held] using apart)).1
  | false => exact (separated a ofA b ofB (by simpa [held] using apart) held).2

theorem cut_by_measure {κ : Type} [LinearOrder κ] (measure : α → κ) {items : List α}
    (respected : ∀ a ∈ items, ∀ b ∈ items, measure a < measure b →
      before a b = true ∧ before b a = false)
    (limit : κ) : Cut before (fun a => decide (measure a ≤ limit)) items := by
  apply cut_of_separated
  intro a ofA b ofB near far
  have beyond : limit < measure b := not_le.mp (of_decide_eq_false far)
  exact respected a ofA b ofB ((of_decide_eq_true near).trans_lt beyond)

theorem leads_reverse {belongs : α → Bool} {run : List α} (leads : Leads belongs run) :
    Leads (fun a => !belongs a) run.reverse := by
  unfold Leads
  rw [List.pairwise_reverse]
  refine leads.imp ?_
  intro a b earlier
  simpa using mt earlier

theorem leads_append_cons {belongs : α → Bool} {taken merged : List α} {x : α}
    (front : Leads belongs (taken ++ [x])) (later : Leads belongs merged)
    (covered : ∀ m ∈ merged, belongs m = true → belongs x = true) :
    Leads belongs (taken ++ x :: merged) := by
  obtain ⟨inside, _, last⟩ := List.pairwise_append.mp front
  refine List.pairwise_append.mpr ⟨inside, List.pairwise_cons.mpr ⟨covered, later⟩, ?_⟩
  intro c member m behind belongsLater
  apply last c member x (by simp)
  rcases List.mem_cons.mp behind with rfl | behind
  · exact belongsLater
  · exact covered m behind belongsLater

theorem Merged.leads {ahead : α → α → Bool} {belongs : α → Bool} {left right merged : List α}
    (meets : Merged ahead left right merged) (lefts : Leads belongs left)
    (rights : Leads belongs right)
    (cut : ∀ a ∈ left, ∀ b ∈ right, belongs a ≠ belongs b → ahead b a = belongs b) :
    Leads belongs merged := by
  induction meets with
  | left_over left => exact lefts
  | right_over right => exact rights
  | @take_left x b left right merged taken held rest ih =>
    rw [← List.singleton_append, ← List.append_assoc] at lefts
    obtain ⟨front, behind, between⟩ := List.pairwise_append.mp lefts
    refine leads_append_cons front (ih behind rights ?_) ?_
    · intro a member
      exact cut a (by simp [member])
    · intro m member belongsLater
      rcases List.mem_append.mp (rest.perm.mem_iff.mp member) with stays | other
      · exact between x (by simp) m stays belongsLater
      · have first : belongs b = true := by
          rcases List.mem_cons.mp other with rfl | other
          · exact belongsLater
          · exact List.rel_of_pairwise_cons rights other belongsLater
        -- Otherwise `b` would have gone out in front of `x`.
        by_contra outside
        have goes := cut x (by simp) b (by simp) (by simp [outside, first])
        simp [goes, first] at held
  | @take_right a y left right merged taken passes rest ih =>
    rw [← List.singleton_append, ← List.append_assoc] at rights
    obtain ⟨front, behind, between⟩ := List.pairwise_append.mp rights
    refine leads_append_cons front (ih lefts behind ?_) ?_
    · intro a member b other
      exact cut a member b (by simp [other])
    · intro m member belongsLater
      rcases List.mem_append.mp (rest.perm.mem_iff.mp member) with other | stays
      · have first : belongs a = true := by
          rcases List.mem_cons.mp other with rfl | other
          · exact belongsLater
          · exact List.rel_of_pairwise_cons lefts other belongsLater
        by_contra outside
        have waits := cut a (by simp) y (by simp) (by simp [outside, first])
        simp [waits, outside] at passes
      · exact between y (by simp) m stays belongsLater

theorem leads_of_rising {before : α → α → Bool} {belongs : α → Bool} {run : List α}
    (rises : run.IsChain fun a b => before b a = false) (cut : Cut before belongs run) :
    Leads belongs run := by
  induction run with
  | nil => exact .nil
  | cons a rest ih =>
    obtain ⟨near, behind⟩ := List.isChain_cons.mp rises
    obtain ⟨apart, later⟩ := List.pairwise_cons.mp cut
    have leads := ih behind later
    refine List.pairwise_cons.mpr ⟨?_, leads⟩
    intro m member belongsLater
    cases rest with
    | nil => cases member
    | cons c rest =>
      have first : belongs c = true := by
        rcases List.mem_cons.mp member with rfl | member
        · exact belongsLater
        · exact List.rel_of_pairwise_cons leads member belongsLater
      by_contra outside
      have goes := apart c (by simp) (by simp [outside, first])
      simp [near c (by simp), first] at goes

theorem leads_of_falling {before : α → α → Bool} {belongs : α → Bool} {run : List α}
    (falls : run.IsChain fun a b => before b a = true) (cut : Cut before belongs run) :
    Leads belongs run.reverse := by
  -- Read backwards, the elements outside the set stand in front of a falling run.
  have turned : Leads (fun a => !belongs a) run := by
    apply @leads_of_rising _ fun b a => !before b a
    · exact falls.imp fun _ _ falling => by simp [falling]
    · refine cut.imp ?_
      intro a b apart different
      have differ : belongs a ≠ belongs b := fun same => different (congrArg not same)
      exact congrArg not (apart differ)
  simpa using leads_reverse turned

/-- Whatever is compared on the way, the members of a cut stand in front in the end. -/
theorem Arranged.leads {before : α → α → Bool} {belongs : α → Bool} {items arranged : List α}
    (given : Arranged before items arranged) (cut : Cut before belongs items) :
    Leads belongs arranged := by
  induction given with
  | rising rises => exact leads_of_rising rises cut
  | falling falls => exact leads_of_falling falls cut
  | forward first second meets ihFirst ihSecond =>
    obtain ⟨lefts, rights, apart⟩ := List.pairwise_append.mp cut
    apply meets.leads (ihFirst lefts) (ihSecond rights)
    intro a left b right
    exact apart a (first.perm.mem_iff.mp left) b (second.perm.mem_iff.mp right)
  | backward first second meets ihFirst ihSecond =>
    obtain ⟨lefts, rights, apart⟩ := List.pairwise_append.mp cut
    -- From the back it is the elements outside the set that have to go out first.
    have outside := meets.leads (leads_reverse (ihSecond rights)) (leads_reverse (ihFirst lefts))
      (by
        intro b right a left different
        have member := first.perm.mem_iff.mp (List.mem_reverse.mp left)
        have other := second.perm.mem_iff.mp (List.mem_reverse.mp right)
        have differ : belongs a ≠ belongs b := fun same => different (by rw [same])
        rw [apart a member b other differ]
        cases ofA : belongs a <;> cases ofB : belongs b <;> simp_all)
    simpa using leads_reverse outside

end HandlerRouting.Sort
