import HandlerRouting.Precedence.Merge
import HandlerRouting.Proofs.Precedence.Arranged

/-!
Searches and merges. Every search, by halves or by doubling steps, ends at a boundary, and so every
merge is one in which each element was compared with one that it goes in front of. Nothing is
assumed of the comparison, which may mislead a search about all but the two elements at its
boundary.
-/

namespace HandlerRouting.Sort
variable {α : Type}

/-- A place in a run: what stands last in front of it passes, and what stands first behind it does
not. A search that was misled by ties still ends at such a place. -/
def Boundary (passes : α → Bool) (run : List α) (place : Nat) : Prop :=
  ∃ front back, run = front ++ back ∧ front.length = place ∧
    (∀ x ∈ front.getLast?, passes x = true) ∧ ∀ x ∈ back.head?, passes x = false

section Searching
variable {passes : α → Bool}

theorem boundary_within (front back : List α) {inner : List α} {place : Nat}
    (last : ∀ x ∈ front.getLast?, passes x = true) (first : ∀ x ∈ back.head?, passes x = false)
    (inside : Boundary passes inner place) :
    Boundary passes (front ++ inner ++ back) (front.length + place) := by
  obtain ⟨near, far, rfl, rfl, nearLast, farFirst⟩ := inside
  refine ⟨front ++ near, far ++ back, by simp, by simp, ?_, ?_⟩
  · intro x ends
    rw [Option.mem_def, List.getLast?_append, Option.or_eq_some_iff] at ends
    rcases ends with ends | ⟨_, ends⟩
    · exact nearLast x ends
    · exact last x ends
  · intro x begins
    rw [Option.mem_def, List.head?_append, Option.or_eq_some_iff] at begins
    rcases begins with begins | ⟨_, begins⟩
    · exact farFirst x begins
    · exact first x begins

theorem boundary_reverse {run : List α} {place : Nat}
    (given : Boundary passes run.reverse place) :
    Boundary (fun a => !passes a) run (run.length - place) := by
  obtain ⟨front, back, parts, rfl, last, first⟩ := given
  have turned : run = back.reverse ++ front.reverse := by
    rw [← List.reverse_append, ← parts, List.reverse_reverse]
  subst turned
  refine ⟨back.reverse, front.reverse, rfl, by simp, ?_, ?_⟩
  · intro x ends
    rw [List.getLast?_reverse] at ends
    simp [first x ends]
  · intro x begins
    rw [List.head?_reverse] at begins
    simp [last x begins]

variable (passes)

theorem bisect_within_boundary (fuel : Nat) (run : List α) (enough : run.length ≤ fuel) :
    Boundary passes run (bisectWithin passes fuel run) := by
  induction fuel generalizing run with
  | zero =>
    have empty : run = [] := List.eq_nil_of_length_eq_zero (by omega)
    exact ⟨[], [], empty, rfl, by simp, by simp⟩
  | succ fuel ih =>
    have halves := List.take_append_drop (run.length / 2) run
    have size := congrArg List.length halves
    simp only [List.length_append, List.length_take, List.length_drop] at size
    simp only [bisectWithin]
    split
    · rename_i empty
      have none := congrArg List.length empty
      simp only [List.length_drop, List.length_nil] at none
      have gone : run = [] := List.eq_nil_of_length_eq_zero (by omega)
      exact ⟨[], [], gone, rfl, by simp, by simp⟩
    · rename_i middle right found
      have sizes := congrArg List.length found
      simp only [List.length_drop, List.length_cons] at sizes
      rw [found] at halves
      split
      · rename_i pass
        have inside := boundary_within (run.take (run.length / 2) ++ [middle]) [] (by simp [pass])
          (by simp) (ih right (by omega))
        have place : (run.take (run.length / 2) ++ [middle]).length = run.length / 2 + 1 := by
          simp only [List.length_append, List.length_take, List.length_singleton]
          omega
        simpa [place, halves] using inside
      · rename_i fail
        have inside := boundary_within [] (middle :: right) (by simp)
          (by simpa using fail) (ih (run.take (run.length / 2)) (by simp; omega))
        simpa [halves] using inside

theorem bisect_boundary (run : List α) : Boundary passes run (bisect passes run) :=
  bisect_within_boundary passes run.length run (Nat.le_refl _)

theorem bisect_towards_boundary (backward : Bool) (run : List α) :
    Boundary passes run (bisectTowards backward passes run) := by
  cases backward with
  | false => exact bisect_boundary passes run
  | true =>
    have turned := boundary_reverse (bisect_boundary (fun a => !passes a) run.reverse)
    simpa [bisectTowards] using turned

theorem bracket_within_spec (run : List α) (fuel low high : Nat)
    (lowPasses : ∃ x, run[low]? = some x ∧ passes x = true) (ordered : low < high) :
    let found := bracketWithin passes run fuel low high
    (∃ x, run[found.1]? = some x ∧ passes x = true) ∧ found.1 < found.2 ∧
      found.2 ≤ run.length ∧ ∀ x, run[found.2]? = some x → passes x = false := by
  have inside : ∀ {place : Nat} {x : α}, run[place]? = some x → place < run.length :=
    fun at_place => (List.getElem?_eq_some_iff.mp at_place).1
  induction fuel generalizing low high with
  | zero =>
    -- The end of the run serves as a place that does not pass.
    have ⟨_, at_low, _⟩ := lowPasses
    exact ⟨lowPasses, inside at_low, Nat.le_refl _, by simp [bracketWithin]⟩
  | succ fuel ih =>
    simp only [bracketWithin]
    split
    · have ⟨_, at_low, _⟩ := lowPasses
      exact ⟨lowPasses, inside at_low, Nat.le_refl _, by simp⟩
    · rename_i a at_high
      split
      · rename_i pass
        exact ih _ _ ⟨a, at_high, pass⟩ (by omega)
      · rename_i fail
        refine ⟨lowPasses, ordered, Nat.le_of_lt (inside at_high), ?_⟩
        intro x same
        rw [at_high] at same
        cases same
        simpa using fail

theorem gallop_boundary (backward : Bool) (run : List α) :
    Boundary passes run (gallop backward passes run) := by
  cases run with
  | nil => exact ⟨[], [], rfl, rfl, by simp, by simp⟩
  | cons first rest =>
    simp only [gallop]
    split
    · rename_i pass
      obtain ⟨⟨x, at_low, lowPasses⟩, ordered, bounded, highFails⟩ :=
        bracket_within_spec passes (first :: rest) rest.length 0 1 ⟨first, rfl, pass⟩ (by omega)
      generalize bracketWithin passes (first :: rest) rest.length 0 1 = found at *
      obtain ⟨low, high⟩ := found
      generalize first :: rest = run at *
      simp only at at_low ordered bounded highFails ⊢
      -- The bisection is between the two places, what is around them decides nothing.
      have within := boundary_within (run.take (low + 1)) (run.drop high)
        (by simp [List.getLast?_take, at_low, lowPasses])
        (by simpa [List.head?_drop] using highFails)
        (bisect_towards_boundary passes backward ((run.take high).drop (low + 1)))
      have whole : run.take (low + 1) ++ (run.take high).drop (low + 1) ++ run.drop high = run := by
        have near := List.take_append_drop (low + 1) (run.take high)
        rw [List.take_take, Nat.min_eq_left (by omega)] at near
        rw [near, List.take_append_drop]
      rw [whole, List.length_take, Nat.min_eq_left (by omega)] at within
      exact within
    · rename_i fail
      exact ⟨[], first :: rest, rfl, rfl, by simp, by simpa using fail⟩

end Searching

section Merging
variable {ahead : α → α → Bool}

theorem Merged.behind_left {b : α} {left right merged : List α} (front : List α)
    (held : ∀ x ∈ front.getLast?, ahead b x = false)
    (rest : Merged ahead left (b :: right) merged) :
    Merged ahead (front ++ left) (b :: right) (front ++ merged) := by
  rcases List.eq_nil_or_concat' front with rfl | ⟨taken, x, rfl⟩
  · exact rest
  · simpa using rest.take_left taken (held x (by simp))

theorem Merged.behind_right {a : α} {left right merged : List α} (front : List α)
    (passes : ∀ y ∈ front.getLast?, ahead y a = true)
    (rest : Merged ahead (a :: left) right merged) :
    Merged ahead (a :: left) (front ++ right) (front ++ merged) := by
  rcases List.eq_nil_or_concat' front with rfl | ⟨taken, y, rfl⟩
  · exact rest
  · simpa using rest.take_right taken (passes y (by simp))

theorem Merged.eq_right {right merged : List α} (meets : Merged ahead [] right merged) :
    merged = right := by
  generalize empty : ([] : List α) = left at meets
  cases meets with
  | left_over => exact empty.symm
  | right_over => rfl
  | take_left taken => simp at empty
  | take_right => cases empty

theorem Merged.eq_left {left merged : List α} (meets : Merged ahead left [] merged) :
    merged = left := by
  generalize empty : ([] : List α) = right at meets
  cases meets with
  | left_over => rfl
  | right_over => exact empty.symm
  | take_left => cases empty
  | take_right taken => simp at empty

theorem merged_append {left right : List α}
    (stays : ∀ x ∈ left.getLast?, ∀ b ∈ right.head?, ahead b x = false) :
    Merged ahead left right (left ++ right) := by
  cases right with
  | nil => simpa using Merged.left_over left
  | cons b right =>
    have whole := (Merged.right_over (b :: right)).behind_left left fun x ends =>
      stays x ends b (by simp)
    simpa using whole

theorem Merged.append_right {left right merged : List α} (tail : List α)
    (meets : Merged ahead left right merged)
    (stays : ∀ x ∈ left.getLast?, ∀ b ∈ tail.head?, ahead b x = false) :
    Merged ahead left (right ++ tail) (merged ++ tail) := by
  induction meets with
  | left_over left => exact merged_append stays
  | right_over right => exact .right_over _
  | @take_left x b left right merged taken held rest ih =>
    have later := ih fun z ends => stays z (by simp [List.getLast?_cons, Option.mem_def.mp ends])
    simpa using later.take_left taken held
  | take_right taken passes rest ih =>
    simpa using (ih stays).take_right taken passes

theorem insert_merged (before : α → α → Bool) (p : α) (run : List α) :
    Merged before run [p] (insert before p run) := by
  obtain ⟨front, back, rfl, place, last, first⟩ :=
    bisect_boundary (fun a => !before p a) run
  rw [insert, ← place, List.take_left, List.drop_left]
  apply Merged.behind_left front fun x ends => by simpa using last x ends
  cases back with
  | nil => exact .right_over [p]
  | cons c back => exact (Merged.left_over (c :: back)).take_right [] (by simpa using first)

end Merging

section Moves
variable {ahead : α → α → Bool} {backward : Bool} {a b : α} {left right : List α}

/-- A move that may begin a merge of two sides, and leaves a rear part of both. -/
structure Sound (ahead : α → α → Bool) (a b : α) (left right : List α) (taken : Move α) :
    Prop where
  begins : ∀ merged, Merged ahead taken.left taken.right merged →
    Merged ahead (a :: left) (b :: right) (taken.out ++ merged)
  leftRest : taken.left <:+ a :: left
  rightRest : taken.right <:+ b :: right
  shorter : taken.left.length + taken.right.length ≤ left.length + right.length + 1

theorem step_sound : Sound ahead a b left right (step ahead a b left right) := by
  unfold step
  split
  · rename_i goes
    refine ⟨?_, List.suffix_rfl, List.suffix_cons b right, by simp; omega⟩
    intro merged rest
    exact rest.take_right [] goes
  · rename_i waits
    refine ⟨?_, List.suffix_cons a left, List.suffix_rfl, by simp; omega⟩
    intro merged rest
    exact rest.take_left [] (by simpa using waits)

theorem stretch_left_sound :
    Sound ahead a b left right (stretchLeft ahead backward a b left right) := by
  obtain ⟨front, back, parts, place, last, first⟩ :=
    gallop_boundary (fun x => !ahead b x) backward (a :: left)
  have size := congrArg List.length parts
  simp only [List.length_cons, List.length_append] at size
  simp only [stretchLeft]
  rw [← place, parts, List.take_left, List.drop_left]
  refine ⟨?_, by rw [parts]; exact List.suffix_append front back, List.suffix_cons b right,
    by simp; omega⟩
  intro merged rest
  rw [parts, List.append_assoc]
  apply Merged.behind_left front fun x ends => by simpa using last x ends
  cases back with
  | nil =>
    rw [rest.eq_right]
    exact .right_over _
  | cons c back => exact rest.take_right [] (by simpa using first)

theorem stretch_right_sound :
    Sound ahead a b left right (stretchRight ahead backward a b left right) := by
  obtain ⟨front, back, parts, place, last, first⟩ :=
    gallop_boundary (fun y => ahead y a) backward (b :: right)
  have size := congrArg List.length parts
  simp only [List.length_cons, List.length_append] at size
  simp only [stretchRight]
  rw [← place, parts, List.take_left, List.drop_left]
  refine ⟨?_, List.suffix_cons a left, by rw [parts]; exact List.suffix_append front back,
    by simp; omega⟩
  intro merged rest
  rw [parts, List.append_assoc]
  apply Merged.behind_right front last
  cases back with
  | nil =>
    rw [rest.eq_left]
    exact .left_over _
  | cons c back => exact rest.take_left [] (by simpa using first)

theorem move_sound (pace : Pace) :
    Sound ahead a b left right (move ahead backward a b left right pace) := by
  cases pace with
  | stepping lefts rights => exact step_sound
  | slowing => exact step_sound
  | opening again => cases backward <;> [exact stretch_left_sound; exact stretch_right_sound]
  | closing opened => cases backward <;> [exact stretch_right_sound; exact stretch_left_sound]

def EndsLeft (ahead : α → α → Bool) (left right : List α) : Prop :=
  ∀ x ∈ left.getLast?, ∀ y ∈ right.getLast?, ahead y x = true

theorem mem_last_of_rest {rest whole : List α} {x : α} (behind : rest <:+ whole)
    (ends : x ∈ rest.getLast?) : x ∈ whole.getLast? := by
  obtain ⟨front, rfl⟩ := behind
  simp [List.getLast?_append, Option.mem_def.mp ends]

theorem merge_within_merged (fuel : Nat) (pace : Pace) (patience : Nat) (left right : List α)
    (enough : left.length + right.length ≤ fuel) (endsLeft : EndsLeft ahead left right) :
    Merged ahead left right (mergeWithin ahead backward fuel pace patience left right).1 := by
  fun_induction mergeWithin ahead backward fuel pace patience left right with
  | case1 pace patience left right =>
    have noLeft : left = [] := List.eq_nil_of_length_eq_zero (by omega)
    have noRight : right = [] := List.eq_nil_of_length_eq_zero (by omega)
    subst noLeft noRight
    exact .right_over []
  | case2 => exact .right_over _
  | case3 => exact .left_over _
  | case4 fuel pace patience a right someRight =>
    rcases List.eq_nil_or_concat' right with rfl | ⟨taken, y, rfl⟩
    · exact absurd rfl (someRight)
    · have goes := endsLeft a (by simp) y (by simp)
      simpa using (Merged.left_over [a]).take_right taken goes
  | case5 fuel pace kept a left b right _ patience taken rest last found ih =>
    have sound : Sound ahead a b left right taken := move_sound pace
    have shorter := sound.shorter
    simp only [List.length_cons] at enough
    -- What a move leaves still ends as both sides do.
    have later := ih (by omega) (by
      intro x ends y other
      exact endsLeft x (mem_last_of_rest sound.leftRest ends) y
        (mem_last_of_rest sound.rightRest other))
    rw [found] at later
    exact sound.begins rest later

theorem merge_sides_merged (backward : Bool) (patience : Nat) (left right : List α) (a first : α)
    (begins : ahead first a = true) (endsLeft : EndsLeft ahead (a :: left) (first :: right)) :
    Merged ahead (a :: left) (first :: right)
      (mergeSides ahead backward patience (a :: left) (first :: right)).1 := by
  apply Merged.take_right [] begins
  apply merge_within_merged _ _ _ _ _ (Nat.le_refl _)
  intro x ends y other
  exact endsLeft x ends y (mem_last_of_rest (List.suffix_cons first right) other)

end Moves

section Runs
variable {before : α → α → Bool}

inductive Blended (before : α → α → Bool) (left right merged : List α) : Prop where
  | forward (meets : Merged before left right merged)
  | backward (meets : Merged (fun a b => before b a) right.reverse left.reverse merged.reverse)

theorem Arranged.blended {left right leftRun rightRun merged : List α}
    (first : Arranged before left leftRun) (second : Arranged before right rightRun)
    (meets : Blended before leftRun rightRun merged) :
    Arranged before (left ++ right) merged := by
  cases meets with
  | forward meets => exact first.forward second meets
  | backward meets => simpa using first.backward second meets

/-- Runs that overlap: the first element of the later one comes before the first of the earlier
one, and its last before the last. -/
theorem merge_overlap_blended (patience : Nat) {left right : List α}
    (someLeft : left ≠ []) (someRight : right ≠ [])
    (begins : ∀ x ∈ left.head?, ∀ y ∈ right.head?, before y x = true)
    (endsLeft : EndsLeft before left right) :
    Blended before left right (mergeOverlap before patience left right).1 := by
  unfold mergeOverlap
  split
  · apply Blended.forward
    obtain ⟨a, left, rfl⟩ := List.exists_cons_of_ne_nil someLeft
    obtain ⟨b, right, rfl⟩ := List.exists_cons_of_ne_nil someRight
    exact merge_sides_merged false patience left right a b (begins a (by simp) b (by simp)) endsLeft
  · apply Blended.backward
    rcases List.eq_nil_or_concat' left with rfl | ⟨left, x, rfl⟩
    · exact absurd rfl someLeft
    rcases List.eq_nil_or_concat' right with rfl | ⟨right, y, rfl⟩
    · exact absurd rfl someRight
    have ends := endsLeft x (by simp) y (by simp)
    -- Read backwards, the sides change places, and so do their first and last elements.
    have turned : EndsLeft (fun a b => before b a) (y :: right.reverse) (x :: left.reverse) := by
      intro z last w first
      rw [← List.reverse_concat, List.getLast?_reverse] at last first
      exact begins w first z last
    simpa using merge_sides_merged true patience right.reverse left.reverse y x ends turned

theorem Blended.widen {front left right back merged : List α}
    (someLeft : left ≠ []) (someRight : right ≠ [])
    (stays : ∀ x ∈ front.getLast?, ∀ b ∈ right.head?, before b x = false)
    (waits : ∀ x ∈ left.getLast?, ∀ b ∈ back.head?, before b x = false)
    (meets : Blended before left right merged) :
    Blended before (front ++ left) (right ++ back) (front ++ merged ++ back) := by
  obtain ⟨b, right, rfl⟩ := List.exists_cons_of_ne_nil someRight
  rcases List.eq_nil_or_concat' left with rfl | ⟨left, x, rfl⟩
  · exact absurd rfl someLeft
  cases meets with
  | forward meets =>
    apply Blended.forward
    have later := meets.append_right back waits
    rw [List.append_assoc]
    exact later.behind_left front fun z ends => stays z ends b (by simp)
  | backward meets =>
    apply Blended.backward
    have later := meets.append_right front.reverse (by
      intro z last w first
      rw [List.getLast?_reverse] at last
      rw [List.head?_reverse] at first
      exact stays w first z last)
    rw [List.reverse_concat, List.cons_append] at later
    have whole := later.behind_left back.reverse fun z ends => by
      rw [List.getLast?_reverse] at ends
      exact waits x (by simp) z ends
    simpa using whole

theorem merge_runs_blended (patience : Nat) (left right : List α) :
    Blended before left right (mergeRuns before patience left right).1 := by
  unfold mergeRuns
  split
  · rename_i last first endsLeft beginsRight
    obtain ⟨front, late, lefts, start, frontLast, lateFirst⟩ :=
      gallop_boundary (fun a => !before first a) false left
    obtain ⟨early, back, rights, stop, earlyLast, backFirst⟩ := boundary_reverse
      (gallop_boundary (fun b => !before b last) true right.reverse)
    simp only [Bool.not_eq_true', Bool.not_eq_false'] at frontLast lateFirst
    simp only [Bool.not_not] at earlyLast backFirst
    subst lefts rights
    dsimp only
    rw [← start, ← stop, List.take_left, List.drop_left, List.take_left, List.drop_left]
    split
    · rename_i apart
      apply Blended.forward
      apply merged_append
      intro x ends b begins
      rw [Option.mem_def, endsLeft, Option.some.injEq] at ends
      rw [Option.mem_def, beginsRight, Option.some.injEq] at begins
      subst ends begins
      simp only [Bool.or_eq_true, List.isEmpty_iff] at apart
      rcases apart with rfl | rfl
      · rw [List.append_nil] at endsLeft
        exact frontLast last endsLeft
      · exact backFirst first beginsRight
    · rename_i overlap
      simp only [Bool.or_eq_true, List.isEmpty_iff, not_or] at overlap
      obtain ⟨someLate, someEarly⟩ := overlap
      have lateEnds : late.getLast? = some last := by
        rwa [List.getLast?_append_of_ne_nil _ someLate] at endsLeft
      have earlyBegins : early.head? = some first := by
        rwa [List.head?_append_of_ne_nil _ someEarly] at beginsRight
      apply (merge_overlap_blended patience someLate someEarly ?_ ?_).widen someLate someEarly
      · rw [earlyBegins]
        rintro x ends b ⟨⟩
        exact frontLast x ends
      · rw [lateEnds]
        rintro x ⟨⟩ b begins
        exact backFirst b begins
      · rw [earlyBegins]
        rintro x begins y ⟨⟩
        exact lateFirst x begins
      · unfold EndsLeft
        rw [lateEnds]
        rintro x ⟨⟩ y ends
        exact earlyLast y ends
  · rename_i nothing
    apply Blended.forward
    apply merged_append
    intro x ends b begins
    exact (nothing x b ends begins).elim

end Runs

end HandlerRouting.Sort
