import HandlerRouting.Proofs.RecencyCache.LeastRecent

/-!
What every use of a cache preserves. Whatever is got, removed or cleared, the cache stays within its
capacity, keeps loaded values under distinct keys in the order of their last requests, and counts
its gets; and each use changes no more than it has to.
-/

namespace HandlerRouting

namespace CacheUse
variable {Key : Type}

theorem gets_since_clear_snoc (uses : List (CacheUse Key)) (cacheUse : CacheUse Key) :
    getsSinceClear (uses ++ [cacheUse]) =
      if cacheUse.isClear then 0 else getsSinceClear uses + (requests [cacheUse]).length := by
  unfold getsSinceClear
  rw [List.reverse_append, List.reverse_singleton, List.singleton_append]
  cases cacheUse with
  | clear => rfl
  | get key => rfl
  | contains key => rfl
  | remove key => rfl
  | inspect => rfl

end CacheUse

namespace RecencyCache
variable {Key Value ε : Type} [BEq Key] {c : RecencyCache Key Value} {load : Key → Except ε Value}
  {uses : List (CacheUse Key)} {key : Key}

section Order
variable {requests present : List Key}

theorem InOrder.rtake (ordered : InOrder requests present) (n : Nat) :
    InOrder requests (present.rtake n) := by
  obtain ⟨asked, listed, same⟩ := ordered
  exact ⟨_, (List.drop_sublist _ asked).trans listed, same.rtake n⟩

variable [EquivBEq Key]

theorem InOrder.filter_others (ordered : InOrder requests present) (key : Key) :
    InOrder requests (present.filter fun other => !(other == key)) := by
  obtain ⟨asked, listed, same⟩ := ordered
  exact ⟨_, List.filter_sublist.trans listed, same.filter_others key⟩

theorem InOrder.others_asked (ordered : InOrder requests present) (key : Key) :
    InOrder (requests ++ [key]) (present.filter fun other => !(other == key)) := by
  obtain ⟨asked, listed, same⟩ := ordered
  have others := listed.filter fun other => !(other == key)
  rw [InOrder, by_last_request_snoc]
  exact ⟨_, others.trans (List.sublist_append_left ..), same.filter_others key⟩

theorem InOrder.asked (ordered : InOrder requests present) {form : Key}
    (last : (form == key) = true) :
    InOrder (requests ++ [key]) ((present.filter fun other => !(other == key)) ++ [form]) := by
  obtain ⟨asked, listed, same⟩ := ordered
  have others := listed.filter fun other => !(other == key)
  rw [InOrder, by_last_request_snoc]
  exact ⟨_, others.append_right [key], (same.filter_others key).snoc last⟩

end Order

namespace Sound
variable [EquivBEq Key]

omit [EquivBEq Key] in
theorem start (load : Key → Except ε Value) (capacity : Nat) :
    Sound load [] ({ capacity } : RecencyCache Key Value) where
  bounded := Nat.zero_le _
  apart := List.Pairwise.nil
  loaded := by
    intro entry member
    cases member
  counted := rfl
  inOrder := ⟨[], List.nil_sublist _, .nil⟩

theorem served (sound : Sound load uses c) {value : Value}
    (served : (c.get load key).1 = .ok value) :
    Sound load (uses ++ [.get key]) (c.get load key).2 := by
  obtain ⟨form, last, kept⟩ := keys_of_served sound.bounded served
  have room : (c.get load key).2.capacity = c.capacity := capacity_after load c (.get key)
  constructor
  case bounded =>
    have length := congrArg List.length kept
    rw [keys, List.length_map] at length
    rw [size, length, room, List.rtake, List.length_drop]
    omega
  case apart =>
    rw [kept]
    refine List.Pairwise.drop (List.pairwise_append.mpr ⟨sound.apart.filter _, ?_, ?_⟩)
    · exact List.pairwise_singleton ..
    · intro other member b isForm
      rw [List.mem_singleton.mp isForm, BEq.congr_right last]
      simpa using (List.mem_filter.mp member).2
  case loaded =>
    intro entry member
    cases present : c.contains key with
    | true =>
      obtain ⟨own, found⟩ := exists_entry present
      rw [get_present load found] at member
      rcases List.mem_append.mp member with older | isOwn
      · exact sound.loaded entry (List.mem_filter.mp older).1
      · rw [List.mem_singleton.mp isOwn]
        exact sound.loaded own (List.mem_of_find?_eq_some found)
    | false =>
      cases answer : load key with
      | error failure =>
        rw [get_failed present answer] at served
        cases served
      | ok value =>
        rw [get_loaded present answer] at member
        rcases List.mem_append.mp (List.mem_of_mem_drop member) with older | new
        · exact sound.loaded entry older
        · rw [List.mem_singleton.mp new]
          exact answer
  case counted =>
    rw [counted_get, sound.counted, CacheUse.gets_since_clear_snoc]
    rfl
  case inOrder =>
    rw [kept, CacheUse.requests_append]
    exact (sound.inOrder.asked last).rtake c.capacity

theorem failed (sound : Sound load uses c) {failure : ε}
    (failed : (c.get load key).1 = .error failure) :
    Sound load (uses ++ [.get key]) (c.get load key).2 := by
  obtain ⟨absent, fails⟩ := failure_of_get failed
  have counts := counted_get load key c
  rw [get_failed absent fails] at counts ⊢
  constructor
  case bounded => exact sound.bounded
  case apart => exact sound.apart
  case loaded => exact sound.loaded
  case counted =>
    rw [counts, sound.counted, CacheUse.gets_since_clear_snoc]
    rfl
  case inOrder =>
    -- The key is none of those present.
    have all : (c.keys.filter fun other => !(other == key)) = c.keys := by
      rw [keys, ← keys_others, others_of_absent absent]
    have others := sound.inOrder.others_asked key
    rw [all] at others
    rw [CacheUse.requests_append]
    exact others

theorem removed (sound : Sound load uses c) (key : Key) :
    Sound load (uses ++ [.remove key]) (c.remove key).2 := by
  have left : (c.remove key).2.keys = c.keys.filter fun other => !(other == key) :=
    keys_others c.entries
  constructor
  case bounded => exact Nat.le_trans (List.length_filter_le ..) sound.bounded
  case apart =>
    rw [left]
    exact sound.apart.filter _
  case loaded => exact fun entry member => sound.loaded entry (List.mem_filter.mp member).1
  case counted =>
    rw [CacheUse.gets_since_clear_snoc]
    exact sound.counted
  case inOrder =>
    have nothing : CacheUse.requests [CacheUse.remove key] = [] := rfl
    rw [left, CacheUse.requests_append, nothing, List.append_nil]
    exact sound.inOrder.filter_others key

theorem after (sound : Sound load uses c) (cacheUse : CacheUse Key) :
    Sound load (uses ++ [cacheUse]) (c.after load cacheUse) := by
  have looked : ∀ look : CacheUse Key, CacheUse.requests [look] = [] → look.isClear = false →
      Sound load (uses ++ [look]) c := by
    intro look nothing going
    have counted := CacheUse.gets_since_clear_snoc uses look
    rw [going, nothing] at counted
    refine ⟨sound.bounded, sound.apart, sound.loaded, sound.counted.trans counted.symm, ?_⟩
    rw [CacheUse.requests_append, nothing, List.append_nil]
    exact sound.inOrder
  cases cacheUse with
  | get key =>
    cases outcome : (c.get load key).1 with
    | ok value => exact sound.served outcome
    | error failure => exact sound.failed outcome
  | contains key => exact looked (.contains key) rfl rfl
  | inspect => exact looked .inspect rfl rfl
  | remove key => exact sound.removed key
  | clear =>
    refine ⟨Nat.zero_le _, List.Pairwise.nil, ?_, ?_, [], List.nil_sublist _, .nil⟩
    · intro entry member
      cases member
    · rw [CacheUse.gets_since_clear_snoc]
      rfl

theorem afterAll (sound : Sound load uses c) (later : List (CacheUse Key)) :
    Sound load (uses ++ later) (c.afterAll load later) := by
  induction later generalizing c uses with
  | nil => exact (List.append_nil uses).symm ▸ sound
  | cons cacheUse rest ih =>
    rw [List.append_cons]
    exact ih (sound.after cacheUse)

end Sound

theorem capacity_after_all (load : Key → Except ε Value) (c : RecencyCache Key Value)
    (uses : List (CacheUse Key)) : (c.afterAll load uses).capacity = c.capacity := by
  induction uses generalizing c with
  | nil => rfl
  | cons cacheUse rest ih => exact (ih _).trans (capacity_after load c cacheUse)

section Changes

omit [BEq Key] in
theorem map_middle (front back : List (Key × Value)) (entry : Key × Value) :
    (front ++ entry :: back).map Prod.fst =
      front.map Prod.fst ++ entry.1 :: back.map Prod.fst := by simp

theorem Sound.entries_of_present [EquivBEq Key] (sound : Sound load uses c)
    (present : c.contains key = true) : (c.get load key).2.entries.Perm c.entries := by
  obtain ⟨entry, found⟩ := exists_entry present
  obtain ⟨own, front, back, split, before⟩ := List.find?_eq_some_iff_append.mp found
  have apart := sound.apart
  rw [keys, split, map_middle] at apart
  have behind : ∀ other ∈ back, (!(other.1 == key)) = true := by
    intro other member
    have differ := List.rel_of_pairwise_cons (List.pairwise_append.mp apart).2.1
      (List.mem_map_of_mem member)
    rw [← BEq.congr_right own, BEq.symm_false differ]
    rfl
  have left : others key c.entries = front ++ back := by
    rw [others, split, List.filter_append, List.filter_cons_of_neg (by simpa using own),
      List.filter_eq_self.mpr before, List.filter_eq_self.mpr behind]
  rw [get_present load found, left, split]
  exact (List.perm_append_singleton entry (front ++ back)).trans List.perm_middle.symm

/-- A loaded value goes in behind the other entries, and only of a full cache the first one goes. -/
theorem Sound.entries_of_loaded (sound : Sound load uses c) (positive : 0 < c.capacity)
    (absent : c.contains key = false) {value : Value} (loaded : load key = .ok value) :
    (c.get load key).2.entries =
      (if c.size = c.capacity then c.entries.tail else c.entries) ++ [(key, value)] := by
  have bounded : c.entries.length ≤ c.capacity := sound.bounded
  rw [get_loaded absent loaded]
  simp only [trimmed, List.length_append, List.length_singleton]
  by_cases full : c.size = c.capacity
  · have length : c.entries.length = c.capacity := full
    have one : c.entries.length + 1 - c.capacity = 1 := by omega
    have some : 1 ≤ c.entries.length := by omega
    rw [if_pos full, one, List.drop_append_of_le_length some, List.drop_one]
  · have length : c.entries.length ≠ c.capacity := full
    have none : c.entries.length + 1 - c.capacity = 0 := by omega
    rw [if_neg full, none, List.drop_zero]

end Changes

/-- After any uses, failed gets among them, a cache is sound. A get that fails changes nothing but
the count of misses; one of a present key takes no entry out; one of an absent key takes out the
entry that was asked for longest ago, and that only where the cache is full. Removing a key takes
out its entry alone. -/
theorem sound_after_all [EquivBEq Key] {capacity : Int} {start : RecencyCache Key Value}
    (made : make? capacity = some start) (load : Key → Except ε Value)
    (uses : List (CacheUse Key)) :
    let c := start.afterAll load uses
    Sound load uses c ∧ c.capacity = capacity.toNat ∧ ∀ key,
      (∀ failure, (c.get load key).1 = .error failure →
        (c.get load key).2 = { c with misses := c.misses + 1 }) ∧
      (c.contains key = true → (c.get load key).2.entries.Perm c.entries) ∧
      (∀ value, c.contains key = false → load key = .ok value →
        (c.get load key).2.entries =
          (if c.size = c.capacity then c.entries.tail else c.entries) ++ [(key, value)]) ∧
      c.remove key = (c.contains key,
        { c with entries := c.entries.filter fun entry => !(entry.1 == key) }) := by
  intro c
  obtain ⟨positive, rfl⟩ := make_start made
  have sound : Sound load uses c := (Sound.start load _).afterAll uses
  have room : c.capacity = capacity.toNat := capacity_after_all load _ uses
  refine ⟨sound, room, fun key => ⟨?_, ?_, ?_, rfl⟩⟩
  · intro failure failed
    obtain ⟨absent, fails⟩ := failure_of_get failed
    rw [get_failed absent fails]
    rfl
  · exact sound.entries_of_present
  · intro value absent loaded
    exact sound.entries_of_loaded (by omega) absent loaded

def tenfold (n : Nat) : Except String Nat :=
  if n = 13 then .error "no value" else .ok (10 * n)

theorem full_cache_gives_up_oldest :
    make? 2 = some ({ capacity := 2 } : RecencyCache Nat Nat) ∧
      let uses : List (CacheUse Nat) :=
        [.get 1, .get 2, .get 13, .get 1, .contains 2, .get 3, .remove 1, .get 4, .inspect]
      let c := ({ capacity := 2 } : RecencyCache Nat Nat).afterAll tenfold uses
      Sound tenfold uses c ∧ c.keys = [3, 4] ∧
        (c.get tenfold 5).2.entries = [(4, 40), (5, 50)] := by
  have made : make? 2 = some ({ capacity := 2 } : RecencyCache Nat Nat) := rfl
  refine ⟨made, ?_⟩
  intro uses c
  obtain ⟨sound, _, changes⟩ := sound_after_all made tenfold uses
  refine ⟨sound, rfl, ?_⟩
  exact (changes 5).2.2.1 50 rfl rfl

end RecencyCache

end HandlerRouting
