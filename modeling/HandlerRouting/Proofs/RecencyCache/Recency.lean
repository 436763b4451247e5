import HandlerRouting.RecencyCache.Requests
import Mathlib.Data.List.DropRight

/-!
The order of last requests, and the recent part of it. A request takes its key out of the order and
puts it at the end; whether it was in the recent part shows in what was asked for since.
-/

namespace HandlerRouting

section Firsts
variable {α : Type} [BEq α] [EquivBEq α]

theorem firsts_after_cons (key : α) (seen items : List α) :
    firstsAfter (key :: seen) items = (firstsAfter seen items).filter fun a => !(a == key) := by
  induction items generalizing seen with
  | nil => rfl
  | cons a rest ih =>
    have swap : firstsAfter (a :: key :: seen) rest = firstsAfter (key :: a :: seen) rest :=
      firsts_after_congr rest fun b => by simp only [List.any_cons]; ac_rfl
    by_cases met : seen.any (· == a) = true
    · simp only [firstsAfter, List.any_cons, met, Bool.or_true, ↓reduceIte, ih]
    · cases same : key == a with
      | true =>
        -- What equals `a` equals the key.
        have again : firstsAfter (key :: a :: seen) rest = firstsAfter (key :: seen) rest := by
          refine firsts_after_congr rest fun b => ?_
          simp only [List.any_cons, ← BEq.congr_left same, Bool.or_self_left]
        simp only [firstsAfter, List.any_cons, same, Bool.true_or, ↓reduceIte, if_neg met,
          List.filter_cons, BEq.symm same, Bool.not_true, Bool.false_eq_true]
        rw [← ih, again]
      | false =>
        simp only [firstsAfter, List.any_cons, same, Bool.false_or, if_neg met, List.filter_cons,
          BEq.symm_false same, Bool.not_false, ↓reduceIte, swap, ih]

theorem distinct_cons (key : α) (items : List α) :
    distinct (key :: items) = key :: (distinct items).filter fun a => !(a == key) := by
  simp only [distinct, firstsAfter, List.any_nil, Bool.false_eq_true, ↓reduceIte,
    firsts_after_cons]

theorem take_filter_take {items : List α} (apart : items.Pairwise fun a b => (a == b) = false)
    (key : α) (n : Nat) :
    ((items.take (n + 1)).filter fun a => !(a == key)).take n =
      (items.filter fun a => !(a == key)).take n := by
  induction items generalizing n with
  | nil => rfl
  | cons a rest ih =>
    obtain ⟨first, others⟩ := List.pairwise_cons.mp apart
    cases same : a == key with
    | true =>
      have left : ∀ b ∈ rest, (!(b == key)) = true := by
        intro b member
        rw [← BEq.congr_right same, BEq.symm_false (first b member)]
        rfl
      have none : rest.filter (fun b => !(b == key)) = rest := List.filter_eq_self.mpr left
      have fewer : (rest.take n).filter (fun b => !(b == key)) = rest.take n :=
        List.filter_eq_self.mpr fun b member => left b (List.mem_of_mem_take member)
      simp [List.take_succ_cons, same, none, fewer, List.take_take]
    | false =>
      cases n with
      | zero => rfl
      | succ n => simp [List.take_succ_cons, same, ih others n]

omit [EquivBEq α] in
theorem any_take_mark {key a : α} {front : List α} (absent : front.any (· == key) = false)
    (same : (a == key) = true) (back : List α) (n : Nat) :
    ((front ++ a :: back).take n).any (· == key) = decide (front.length < n) := by
  have none : (front.take n).any (· == key) = false := by
    rw [List.any_eq_false] at absent ⊢
    exact fun b member => absent b (List.mem_of_mem_take member)
  rw [List.take_append, List.any_append, none, Bool.false_or]
  by_cases room : front.length < n
  · obtain ⟨m, rest⟩ := Nat.exists_eq_succ_of_ne_zero (Nat.sub_ne_zero_of_lt room)
    simp [rest, List.take_succ_cons, same, room]
  · simp [Nat.sub_eq_zero_of_le (Nat.not_lt.mp room), room]

theorem any_distinct (key : α) (items : List α) :
    (distinct items).any (· == key) = items.any (· == key) := by
  induction items with
  | nil => rfl
  | cons a rest ih =>
    rw [distinct_cons, List.any_cons, List.any_cons, ← ih]
    cases same : a == key with
    | true => rfl
    | false =>
      -- What is left out equals `a`, which is not the key.
      rw [List.any_filter, Bool.false_or, Bool.false_or]
      refine List.any_congr rfl fun b => ?_
      cases equal : b == key with
      | false => simp
      | true => simp [BEq.symm_false ((BEq.congr_right equal).trans same)]

theorem any_take_distinct (key : α) (n : Nat) (items : List α) :
    ((distinct items).take n).any (· == key) =
      (items.any (· == key) &&
        decide ((distinct (items.takeWhile fun a => !(a == key))).length < n)) := by
  have parts := List.takeWhile_append_dropWhile (p := fun a => !(a == key)) (l := items)
  have absent : (items.takeWhile fun a => !(a == key)).any (· == key) = false :=
    List.any_eq_false.mpr fun a member => by
      simpa using List.all_eq_true.mp List.all_takeWhile a member
  generalize items.takeWhile (fun a => !(a == key)) = front at parts absent ⊢
  cases left : items.dropWhile (fun a => !(a == key)) with
  | nil =>
    rw [left, List.append_nil] at parts
    subst parts
    rw [absent, Bool.false_and]
    refine List.any_eq_false.mpr fun a member => ?_
    exact List.any_eq_false.mp absent a
      ((distinct_sublist front).subset (List.mem_of_mem_take member))
  | cons a back =>
    have same : (a == key) = true := by
      have stops := List.head?_dropWhile_not (fun a => !(a == key)) items
      rw [left] at stops
      simpa using stops
    have unseen : front.any (· == a) = false := by
      simpa only [BEq.congr_right same] using absent
    have first : distinct items = distinct front ++ a :: firstsAfter (a :: front) back := by
      rw [← parts, left, distinct, firsts_after_append, List.nil_append, firstsAfter, unseen]
      rfl
    rw [first, any_take_mark (by rwa [any_distinct]) same, ← parts, left, List.any_append,
      List.any_cons, same, Bool.true_or, Bool.or_true, Bool.true_and]

end Firsts

namespace RecencyCache
variable {Key : Type} [BEq Key]

theorem recent_keys_eq_rtake (capacity : Nat) (requests : List Key) :
    recentKeys capacity requests = (byLastRequest requests).rtake capacity := rfl

theorem recent_keys_eq_reverse (capacity : Nat) (requests : List Key) :
    recentKeys capacity requests = ((distinct requests.reverse).take capacity).reverse := by
  rw [recent_keys_eq_rtake, List.rtake_eq_reverse_take_reverse, byLastRequest, List.reverse_reverse]

variable [EquivBEq Key]

theorem by_last_request_snoc (requests : List Key) (key : Key) :
    byLastRequest (requests ++ [key]) =
      ((byLastRequest requests).filter fun other => !(other == key)) ++ [key] := by
  simp [byLastRequest, distinct_cons, List.filter_reverse]

theorem recent_keys_snoc (capacity : Nat) (requests : List Key) (key : Key) :
    recentKeys capacity (requests ++ [key]) =
      (((recentKeys capacity requests).filter fun other => !(other == key)) ++ [key]).rtake
        capacity := by
  rw [recent_keys_eq_rtake, by_last_request_snoc]
  simp only [recent_keys_eq_reverse, byLastRequest, List.rtake_eq_reverse_take_reverse,
    List.reverse_append, List.filter_reverse, List.reverse_reverse, List.reverse_singleton,
    List.singleton_append, List.reverse_inj]
  cases capacity with
  | zero => rfl
  | succ n => simp only [List.take_succ_cons, take_filter_take (distinct_apart requests.reverse)]

/-- A key is among the recent keys when it is recent. -/
theorem any_recent_keys (capacity : Nat) (requests : List Key) (key : Key) :
    (recentKeys capacity requests).any (· == key) = isRecent capacity requests key := by
  rw [recent_keys_eq_reverse, List.any_reverse, any_take_distinct, List.any_reverse]
  rfl

omit [EquivBEq Key] in
theorem recent_of_recent {capacity : Nat} {requests : List Key} {key : Key}
    (recent : isRecent capacity requests key = true) :
    isRecent (capacity + 1) requests key = true := by
  simp only [isRecent, Bool.and_eq_true, decide_eq_true_eq] at recent ⊢
  exact ⟨recent.1, Nat.lt_succ_of_lt recent.2⟩

omit [EquivBEq Key] in
/-- Room for one more key loses no hit. -/
theorem recent_hits_le (capacity : Nat) (earlier requests : List Key) :
    recentHits capacity earlier requests ≤ recentHits (capacity + 1) earlier requests := by
  induction requests generalizing earlier with
  | nil => exact Nat.le_refl 0
  | cons key rest ih =>
    refine Nat.add_le_add ?_ (ih (earlier ++ [key]))
    by_cases recent : isRecent capacity earlier key = true
    · rw [if_pos recent, if_pos (recent_of_recent recent)]
    · rw [if_neg recent]
      exact Nat.zero_le _

omit [EquivBEq Key] in
theorem recent_hits_snoc (capacity : Nat) (earlier requests : List Key) (key : Key) :
    recentHits capacity earlier (requests ++ [key]) = recentHits capacity earlier requests +
      if isRecent capacity (earlier ++ requests) key then 1 else 0 := by
  induction requests generalizing earlier with
  | nil => simp [recentHits]
  | cons first rest ih =>
    simp only [List.cons_append, recentHits, ih, List.append_assoc, List.nil_append, Nat.add_assoc]

end RecencyCache

end HandlerRouting
