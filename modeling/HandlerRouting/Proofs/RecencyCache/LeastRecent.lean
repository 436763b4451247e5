import HandlerRouting.Proofs.RecencyCache.Recency
import HandlerRouting.Proofs.RecencyCache.Steps

/-!
A cache that nothing is taken out of keeps the keys that were asked for last. One get moves its key
to the end of them, so after any run of gets the kept keys, the hits and their number can be read
off the requests alone.
-/

namespace HandlerRouting.RecencyCache
variable {Key Value ε : Type} [BEq Key]

section Alike

theorem same_keys_iff [LawfulBEq Key] {a b : List Key} : SameKeys a b ↔ a = b := by
  simp only [SameKeys, beq_iff_eq, List.forall₂_eq_eq_eq]

theorem SameKeys.any_eq [EquivBEq Key] {a b : List Key} (same : SameKeys a b) (key : Key) :
    a.any (· == key) = b.any (· == key) := by
  induction same with
  | nil => rfl
  | cons first _ ih => rw [List.any_cons, List.any_cons, BEq.congr_left first, ih]

theorem SameKeys.filter_others [EquivBEq Key] {a b : List Key} (same : SameKeys a b) (key : Key) :
    SameKeys (a.filter fun other => !(other == key)) (b.filter fun other => !(other == key)) := by
  induction same with
  | nil => exact .nil
  | @cons x y _ _ first _ ih =>
    rw [List.filter_cons, List.filter_cons, BEq.congr_left first]
    split
    · exact .cons first ih
    · exact ih

theorem SameKeys.snoc {a b : List Key} (same : SameKeys a b) {x y : Key}
    (last : (x == y) = true) : SameKeys (a ++ [x]) (b ++ [y]) :=
  List.rel_append same (.cons last .nil)

theorem SameKeys.drop {a b : List Key} (same : SameKeys a b) (n : Nat) :
    SameKeys (a.drop n) (b.drop n) := List.forall₂_drop n same

theorem SameKeys.rtake {a b : List Key} (same : SameKeys a b) (n : Nat) :
    SameKeys (a.rtake n) (b.rtake n) := by
  unfold List.rtake
  rw [same.length_eq]
  exact same.drop _

end Alike

variable {c next : RecencyCache Key Value} {load : Key → Except ε Value}

theorem keys_of_served [EquivBEq Key] (bounded : c.size ≤ c.capacity) {key : Key} {value : Value}
    (served : (c.get load key).1 = .ok value) :
    ∃ form, (form == key) = true ∧ (c.get load key).2.keys =
      ((c.keys.filter fun other => !(other == key)) ++ [form]).rtake c.capacity := by
  cases present : c.contains key with
  | true =>
    obtain ⟨entry, found⟩ := exists_entry present
    refine ⟨entry.1, entry_key found, ?_⟩
    have fewer := length_others_lt present
    have room : (others key c.entries).length + 1 - c.capacity = 0 := by
      unfold size at bounded
      omega
    simp [get_present load found, keys, ← keys_others, List.rtake, room]
  | false =>
    cases loaded : load key with
    | error failure =>
      rw [get_failed present loaded] at served
      cases served
    | ok value =>
      refine ⟨key, BEq.rfl, ?_⟩
      have all : (c.keys.filter fun other => !(other == key)) = c.keys := by
        rw [keys, ← keys_others, others_of_absent present]
      rw [all]
      simp [get_loaded present loaded, keys, trimmed, List.rtake, List.map_drop]

/-- A cache that has been asked for some keys and has kept the recent ones. -/
structure Recalls (capacity : Nat) (asked : List Key) (c : RecencyCache Key Value) : Prop where
  room : c.capacity = capacity
  recent : SameKeys c.keys (recentKeys capacity asked)
  counted : c.hits = recentHits capacity [] asked

namespace Recalls
variable [EquivBEq Key] {capacity : Nat} {asked : List Key}

omit [EquivBEq Key] in
theorem start (capacity : Nat) : Recalls capacity [] ({ capacity } : RecencyCache Key Value) := by
  refine ⟨rfl, ?_, rfl⟩
  have none : recentKeys capacity ([] : List Key) = [] := List.drop_nil
  rw [none]
  exact .nil

omit [EquivBEq Key] in
theorem bounded (recalls : Recalls capacity asked c) : c.size ≤ c.capacity := by
  have same := recalls.recent.length_eq
  rw [keys, List.length_map] at same
  rw [size, same, recalls.room]
  exact recent_keys_length_le capacity asked

theorem contains_eq (recalls : Recalls capacity asked c) (key : Key) :
    c.contains key = isRecent capacity asked key := by
  rw [contains, recalls.recent.any_eq, any_recent_keys]

theorem get (recalls : Recalls capacity asked c) {key : Key} {value : Value}
    (served : (c.get load key).1 = .ok value) :
    Recalls capacity (asked ++ [key]) (c.get load key).2 := by
  constructor
  case room =>
    rw [← recalls.room]
    exact capacity_after load c (.get key)
  case recent =>
    obtain ⟨form, same, kept⟩ := keys_of_served recalls.bounded served
    rw [kept, recalls.room, recent_keys_snoc]
    exact ((recalls.recent.filter_others key).snoc same).rtake capacity
  case counted =>
    rw [hits_get, recalls.counted, recalls.contains_eq, recent_hits_snoc, List.nil_append]

theorem after (recalls : Recalls capacity asked c) {cacheUse : CacheUse Key}
    (keeps : cacheUse.isGetOrLook = true)
    (served : ∀ key, cacheUse = .get key → ∃ value, (c.get load key).1 = .ok value) :
    Recalls capacity (asked ++ CacheUse.requests [cacheUse]) (c.after load cacheUse) := by
  cases cacheUse with
  | get key =>
    obtain ⟨value, given⟩ := served key rfl
    exact recalls.get given
  | contains key => exact (List.append_nil asked).symm ▸ recalls
  | inspect => exact (List.append_nil asked).symm ▸ recalls
  | remove key => cases keeps
  | clear => cases keeps

theorem afterEach (recalls : Recalls capacity asked c)
    {calls : List ((Key → Except ε Value) × CacheUse Key)}
    (keeps : ∀ call ∈ calls, call.2.isGetOrLook = true) (serves : c.Serves calls) :
    Recalls capacity (asked ++ CacheUse.requests (calls.map Prod.snd)) (c.afterEach calls) := by
  induction calls generalizing c asked with
  | nil => exact (List.append_nil asked).symm ▸ recalls
  | cons call rest ih =>
    obtain ⟨load, cacheUse⟩ := call
    have next := recalls.after (keeps _ List.mem_cons_self) serves.1
    have reached := ih next (fun call member => keeps call (List.mem_cons_of_mem _ member)) serves.2
    rw [List.append_assoc, ← CacheUse.requests_append] at reached
    exact reached

end Recalls

omit [BEq Key] in
theorem make_start {capacity : Int} {start : RecencyCache Key Value}
    (made : make? capacity = some start) :
    0 < capacity ∧ start = { capacity := capacity.toNat } := by
  unfold make? at made
  split at made
  · rename_i positive
    cases made
    exact ⟨positive, rfl⟩
  · cases made

theorem serves_of_loads (c : RecencyCache Key Value)
    {calls : List ((Key → Except ε Value) × CacheUse Key)}
    (loads : ∀ call ∈ calls, ∀ key, call.2 = .get key → ∃ value, call.1 key = .ok value) :
    c.Serves calls := by
  induction calls generalizing c with
  | nil => trivial
  | cons call rest ih =>
    have later := fun other member => loads other (List.mem_cons_of_mem call member)
    refine ⟨fun key asked => ?_, ih _ later⟩
    obtain ⟨value, given⟩ := loads call List.mem_cons_self key asked
    cases outcome : (c.get call.1 key).1 with
    | ok value => exact ⟨value, rfl⟩
    | error failure =>
      rw [(failure_of_get outcome).2] at given
      cases given

/-- After gets that all give a value, with looks in between, a cache has the keys requested last in
the order of their last request. A get is a hit exactly when its key is recent, so the hits can be
counted without the cache, and with room for one more key they are no fewer. -/
theorem recent_keys_kept [EquivBEq Key] {capacity : Int} {start : RecencyCache Key Value}
    (made : make? capacity = some start) {calls : List ((Key → Except ε Value) × CacheUse Key)}
    (keeps : ∀ call ∈ calls, call.2.isGetOrLook = true) (serves : start.Serves calls) :
    let reached := start.afterEach calls
    let asked := CacheUse.requests (calls.map Prod.snd)
    SameKeys reached.keys (recentKeys capacity.toNat asked) ∧
      (∀ (load : Key → Except ε Value) key,
        (reached.get load key).2.hits = reached.hits + 1 ↔
          isRecent capacity.toNat asked key = true) ∧
      reached.hits = recentHits capacity.toNat [] asked ∧
      ∀ (wider : RecencyCache Key Value) (others : List ((Key → Except ε Value) × CacheUse Key)),
        make? (capacity + 1) = some wider → others.map Prod.snd = calls.map Prod.snd →
          wider.Serves others → reached.hits ≤ (wider.afterEach others).hits := by
  intro reached asked
  obtain ⟨positive, rfl⟩ := make_start made
  have recalls : Recalls capacity.toNat asked reached := (Recalls.start _).afterEach keeps serves
  refine ⟨recalls.recent, ?_, recalls.counted, ?_⟩
  · intro load key
    rw [hits_get, recalls.contains_eq]
    split <;> simp_all
  · intro wider others larger same servesToo
    obtain ⟨_, rfl⟩ := make_start larger
    have keepsToo : ∀ call ∈ others, call.2.isGetOrLook = true := by
      intro call member
      have listed : call.2 ∈ calls.map Prod.snd := same ▸ List.mem_map_of_mem member
      obtain ⟨twin, known, alike⟩ := List.mem_map.mp listed
      exact alike ▸ keeps twin known
    have recallsToo := (Recalls.start _).afterEach keepsToo servesToo
    have more : (capacity + 1).toNat = capacity.toNat + 1 := by omega
    rw [recalls.counted, recallsToo.counted, same, more]
    exact recent_hits_le ..

theorem letters_kept :
    let asked : List (CacheUse Char) :=
      [.get 'a', .get 'b', .contains 'a', .get 'a', .get 'c', .inspect, .get 'b']
    let calls : List ((Char → Except String Nat) × CacheUse Char) :=
      asked.map fun cacheUse => ((fun letter => .ok letter.toNat), cacheUse)
    let two : RecencyCache Char Nat := { capacity := 2 }
    let three : RecencyCache Char Nat := { capacity := 3 }
    make? 2 = some two ∧ make? 3 = some three ∧ two.Serves calls ∧ three.Serves calls ∧
      (two.afterEach calls).keys = ['c', 'b'] ∧ (two.afterEach calls).hits = 1 ∧
      (two.afterEach calls).hits ≤ (three.afterEach calls).hits := by
  intro asked calls two three
  have keeps : ∀ call ∈ calls, call.2.isGetOrLook = true := by decide
  have serves : ∀ c : RecencyCache Char Nat, c.Serves calls := by
    intro c
    refine serves_of_loads c fun call member key _ => ?_
    obtain ⟨_, _, rfl⟩ := List.mem_map.mp member
    exact ⟨_, rfl⟩
  have made : make? 2 = some two := rfl
  obtain ⟨recent, _, counted, wider⟩ := recent_keys_kept made keeps (serves two)
  refine ⟨made, rfl, serves two, serves three, ?_, counted, ?_⟩
  · exact same_keys_iff.mp recent
  · exact wider three calls rfl rfl (serves three)

end HandlerRouting.RecencyCache
