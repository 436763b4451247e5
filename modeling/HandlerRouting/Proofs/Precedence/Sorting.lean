import HandlerRouting.Precedence.Sort
import HandlerRouting.Proofs.Precedence.Merging

/-!
The sort puts every list in order by runs and merges. So it loses and repeats no element, it keeps
every cut, and it leaves a list alone that has no element right behind one that it comes before.
Nothing is assumed of the comparison.
-/

namespace HandlerRouting.Sort
variable {α : Type} {before : α → α → Bool}

section Runs

theorem fall_from_spec (before : α → α → Bool) (last : α) (taken items : List α) :
    ∃ fallen, items = fallen ++ (fallFrom before last taken items).2 ∧
      (fallFrom before last taken items).1 = fallen.reverse ++ last :: taken ∧
      (last :: fallen).IsChain fun a b => before b a = true := by
  induction items generalizing last taken with
  | nil => exact ⟨[], rfl, rfl, .singleton last⟩
  | cons a rest ih =>
    simp only [fallFrom]
    split
    · rename_i falls
      obtain ⟨fallen, parts, run, chain⟩ := ih a (last :: taken)
      exact ⟨a :: fallen, congrArg (List.cons a) parts, by simp [run],
        chain.cons_cons falls⟩
    · exact ⟨[], rfl, rfl, .singleton last⟩

theorem rise_from_spec (before : α → α → Bool) (last : α) (items : List α) :
    ∃ risen, items = risen ++ (riseFrom before last items).2 ∧
      (riseFrom before last items).1 = last :: risen ∧
      (last :: risen).IsChain fun a b => before b a = false := by
  induction items generalizing last with
  | nil => exact ⟨[], rfl, rfl, .singleton last⟩
  | cons a rest ih =>
    simp only [riseFrom]
    split
    · exact ⟨[], rfl, rfl, .singleton last⟩
    · rename_i rises
      obtain ⟨risen, parts, run, chain⟩ := ih a
      exact ⟨a :: risen, congrArg (List.cons a) parts, by simp [run],
        chain.cons_cons (by simpa using rises)⟩

/-- A run and what comes after it, both taken from the front of a list. -/
structure Cuts (before : α → α → Bool) (items : List α) (found : List α × List α) : Prop where
  arranged : ∃ front, items = front ++ found.2 ∧ Arranged before front found.1
  shorter : items ≠ [] → found.2.length < items.length

theorem first_run_cuts (before : α → α → Bool) (items : List α) :
    Cuts before items (firstRun before items) := by
  match items with
  | [] => exact ⟨⟨[], rfl, .rising .nil⟩, by simp⟩
  | [a] => exact ⟨⟨[a], rfl, .rising (.singleton a)⟩, by simp [firstRun]⟩
  | a :: b :: rest =>
    simp only [firstRun]
    split
    · rename_i falls
      obtain ⟨fallen, parts, run, chain⟩ := fall_from_spec before b [a] rest
      have turned := Arranged.falling (chain.cons_cons falls)
      have size := congrArg List.length parts
      refine ⟨⟨a :: b :: fallen, by simpa using parts, ?_⟩, ?_⟩
      · simpa [run] using turned
      · simp only [List.length_append] at size
        simp only [List.length_cons]
        omega
    · rename_i rises
      obtain ⟨risen, parts, run, chain⟩ := rise_from_spec before b rest
      have kept := Arranged.rising (chain.cons_cons (a := a) (by simpa using rises))
      have size := congrArg List.length parts
      refine ⟨⟨a :: b :: risen, by simpa using parts, ?_⟩, ?_⟩
      · simpa [run] using kept
      · simp only [List.length_append] at size
        simp only [List.length_cons]
        omega

theorem Arranged.insert_all {items run : List α} (given : Arranged before items run)
    (more : List α) :
    Arranged before (items ++ more) (more.foldl (fun run p => insert before p run) run) := by
  induction more generalizing items run with
  | nil => simpa using given
  | cons p more ih =>
    have next := given.forward (.rising (.singleton p)) (insert_merged before p run)
    simpa using ih next

theorem next_run_cuts (before : α → α → Bool) (floor : Nat) (items : List α) :
    Cuts before items (nextRun before floor items) := by
  have cuts := first_run_cuts before items
  unfold nextRun
  generalize firstRun before items = found at cuts
  obtain ⟨run, others⟩ := found
  obtain ⟨⟨front, parts, arranged⟩, shorter⟩ := cuts
  refine ⟨⟨_, ?_, arranged.insert_all (others.take (floor - run.length))⟩, ?_⟩
  · rw [List.append_assoc, List.take_append_drop]
    exact parts
  · intro someItems
    have fewer : others.length < items.length := shorter someItems
    simp only [List.length_drop]
    omega

end Runs

section Piles

/-- The runs of a pile, the last one first, hold what a list begins with. -/
inductive Piled (before : α → α → Bool) : (runs : List (List α)) → (items : List α) → Prop where
  | empty : Piled before [] []
  | add {runs : List (List α)} {items front run : List α} (below : Piled before runs items)
      (arranged : Arranged before front run) : Piled before (run :: runs) (items ++ front)

theorem Piled.merge_top {top run : List α} {below : List (List α)} {items : List α}
    (piled : Piled before (top :: run :: below) items) (patience : Nat) :
    Piled before ((mergeRuns before patience run top).1 :: below) items := by
  cases piled with
  | add under topArranged =>
    cases under with
    | add below runArranged =>
      rw [List.append_assoc]
      exact below.add (runArranged.blended topArranged (merge_runs_blended patience run top))

theorem Piled.merge_below {top run third : List α} {below : List (List α)} {items : List α}
    (piled : Piled before (top :: run :: third :: below) items) (patience : Nat) :
    Piled before (top :: (mergeRuns before patience third run).1 :: below) items := by
  cases piled with
  | add under arranged => exact (under.merge_top patience).add arranged

theorem settle_piled (fine patience : Nat) (top : List α) (below : List (List α × Nat))
    (items : List α) (piled : Piled before (top :: below.map Prod.fst) items) :
    let settled := Pile.settle before fine patience top below
    Piled before (settled.top :: settled.below.map Prod.fst) items := by
  induction below generalizing patience top with
  | nil => exact piled
  | cons neighbour below ih =>
    obtain ⟨run, its⟩ := neighbour
    simp only [Pile.settle]
    split
    · exact ih _ _ (piled.merge_top patience)
    · exact piled

theorem push_piled (total : Nat) (pile : Pile α) {items front run : List α}
    (piled : Piled before (pile.top :: pile.below.map Prod.fst) items)
    (arranged : Arranged before front run) :
    let next := Pile.push before total pile run
    Piled before (next.top :: next.below.map Prod.fst) (items ++ front) :=
  (settle_piled _ pile.patience pile.top pile.below items piled).add arranged

theorem collapse_arranged (patience : Nat) (top second : List α) (below : List (List α))
    (items : List α) (piled : Piled before (top :: second :: below) items) :
    Arranged before items (Pile.collapse before patience top second below) := by
  induction below generalizing patience top second with
  | nil =>
    cases piled.merge_top patience with
    | add none arranged =>
      cases none
      simpa [Pile.collapse] using arranged
  | cons third below ih =>
    simp only [Pile.collapse]
    split
    · exact ih _ _ _ (piled.merge_below patience)
    · exact ih _ _ _ (piled.merge_top patience)

theorem collapsed_arranged (pile : Pile α) (items : List α)
    (piled : Piled before (pile.top :: pile.below.map Prod.fst) items) :
    Arranged before items (pile.collapsed before) := by
  unfold Pile.collapsed
  split
  · rename_i alone
    rw [alone] at piled
    cases piled with
    | add none arranged =>
      cases none
      simpa using arranged
  · rename_i second below several
    rw [several] at piled
    exact collapse_arranged _ _ _ _ _ piled

theorem push_all_piled (before : α → α → Bool) (floor total fuel : Nat) (pile : Pile α)
    (items rest : List α) (enough : rest.length ≤ fuel)
    (piled : Piled before (pile.top :: pile.below.map Prod.fst) items) :
    let full := Pile.pushAll before floor total fuel pile rest
    Piled before (full.top :: full.below.map Prod.fst) (items ++ rest) := by
  induction fuel generalizing pile items rest with
  | zero =>
    have none : rest = [] := List.eq_nil_of_length_eq_zero (by omega)
    subst none
    simpa [Pile.pushAll] using piled
  | succ fuel ih =>
    cases rest with
    | nil => simpa [Pile.pushAll] using piled
    | cons a rest =>
      -- The next run takes at least one element, so there is fuel for the rest.
      obtain ⟨⟨front, parts, arranged⟩, shorter⟩ :=
        next_run_cuts before floor (a :: rest)
      have fewer := shorter (by simp)
      have later := ih _ _ (nextRun before floor (a :: rest)).2
        (by simp only [List.length_cons] at enough fewer; omega)
        (push_piled total pile piled arranged)
      rw [List.append_assoc, ← parts] at later
      exact later

end Piles

theorem sort_arranged (before : α → α → Bool) (items : List α) :
    Arranged before items (sort before items) := by
  obtain ⟨⟨front, parts, arranged⟩, _⟩ :=
    next_run_cuts before (leastRun items.length) items
  let found := nextRun before (leastRun items.length) items
  have piled := push_all_piled before (leastRun items.length) items.length
    found.2.length ⟨found.1, [], Pace.worthwhile⟩ front found.2 (Nat.le_refl _)
    (by simpa using Piled.empty.add arranged)
  rw [← parts] at piled
  exact collapsed_arranged _ _ piled

theorem sort_perm (before : α → α → Bool) (items : List α) : (sort before items).Perm items :=
  (sort_arranged before items).perm

theorem sort_leads {belongs : α → Bool} {items : List α} (cut : Cut before belongs items) :
    Leads belongs (sort before items) := (sort_arranged before items).leads cut

/-- What is sorted first belongs to everything that is cut off from the rest. -/
theorem sort_head_belongs {belongs : α → Bool} {items : List α} (cut : Cut before belongs items)
    {first x : α} (head : (sort before items).head? = some first) (member : x ∈ items)
    (ofCut : belongs x = true) : belongs first = true := by
  have leads := sort_leads cut
  have kept : x ∈ sort before items := (sort_perm before items).mem_iff.mpr member
  obtain ⟨rest, parts⟩ := List.head?_eq_some_iff.mp head
  rw [parts] at leads kept
  rcases List.mem_cons.mp kept with rfl | later
  · exact ofCut
  · exact List.rel_of_pairwise_cons leads later ofCut

theorem sort_head_le {κ : Type} [LinearOrder κ] (measure : α → κ) {items : List α}
    (respected : ∀ a ∈ items, ∀ b ∈ items, measure a < measure b →
      before a b = true ∧ before b a = false)
    {first x : α} (head : (sort before items).head? = some first) (member : x ∈ items) :
    measure first ≤ measure x := by
  have cut := cut_by_measure measure respected (measure x)
  exact of_decide_eq_true (sort_head_belongs cut head member (by simp))

theorem rise_from_rising (last : α) (items : List α)
    (rises : (last :: items).IsChain fun a b => before b a = false) :
    riseFrom before last items = (last :: items, []) := by
  induction items generalizing last with
  | nil => rfl
  | cons a rest ih =>
    obtain ⟨near, behind⟩ := List.isChain_cons_cons.mp rises
    simp [riseFrom, near, ih a behind]

theorem first_run_of_rising {items : List α}
    (rises : items.IsChain fun a b => before b a = false) :
    firstRun before items = (items, []) := by
  match items with
  | [] => rfl
  | [a] => rfl
  | a :: b :: rest =>
    obtain ⟨near, behind⟩ := List.isChain_cons_cons.mp rises
    simp [firstRun, near, rise_from_rising b rest behind]

theorem sort_of_rising {items : List α} (rises : items.IsChain fun a b => before b a = false) :
    sort before items = items := by
  simp [sort, nextRun, first_run_of_rising rises, Pile.pushAll, Pile.collapsed]

end HandlerRouting.Sort
