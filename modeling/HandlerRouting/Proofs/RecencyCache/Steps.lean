import HandlerRouting.RecencyCache.Requests
import Mathlib.Data.List.DropRight

/-!
The steps of a cache: what a get comes to for a key that is present, for one whose value is loaded
and for one whose value cannot be loaded.
-/

namespace HandlerRouting.RecencyCache
variable {Key Value ε : Type} [BEq Key] {c : RecencyCache Key Value} {key : Key}

section Presence

theorem entry_key {entry : Key × Value} (present : c.entry? key = some entry) :
    (entry.1 == key) = true := by
  unfold entry? at present
  simpa using List.find?_some present

theorem entry_none_iff : c.entry? key = none ↔ c.contains key = false := by
  simp [contains, keys, entry?]

theorem exists_entry (present : c.contains key = true) : ∃ entry, c.entry? key = some entry := by
  apply Option.ne_none_iff_exists'.mp
  intro absent
  rw [entry_none_iff.mp absent] at present
  cases present

theorem others_of_absent (absent : c.contains key = false) : others key c.entries = c.entries := by
  refine List.filter_eq_self.mpr fun entry member => ?_
  have differ := List.any_eq_false.mp absent entry.1 (List.mem_map_of_mem member)
  simpa using differ

theorem keys_others (entries : List (Key × Value)) :
    (others key entries).map Prod.fst =
      (entries.map Prod.fst).filter fun other => !(other == key) := by
  rw [List.filter_map]
  rfl

theorem length_others_lt (present : c.contains key = true) :
    (others key c.entries).length < c.entries.length := by
  obtain ⟨entry, found⟩ := exists_entry present
  refine List.length_filter_lt_length_iff_exists.mpr ⟨entry, List.mem_of_find?_eq_some found, ?_⟩
  simp [entry_key found]

end Presence

section Gets
variable (load : Key → Except ε Value)

theorem get_present {entry : Key × Value} (present : c.entry? key = some entry) :
    c.get load key = (.ok entry.2,
      { c with entries := others key c.entries ++ [entry], hits := c.hits + 1 }) := by
  simp [get_eq, hit?, present]

variable {load}

theorem get_loaded (absent : c.contains key = false) {value : Value}
    (loaded : load key = .ok value) :
    c.get load key = (.ok value, { c with
      entries := trimmed c.capacity (c.entries ++ [(key, value)]), misses := c.misses + 1 }) := by
  have missing := entry_none_iff.mpr absent
  have stillMissing : c.countMiss.entry? key = none := missing
  simp only [get_eq, hit?, missing, Option.map_none, loaded, store, stillMissing]
  simp only [countMiss, others_of_absent absent]

theorem get_failed (absent : c.contains key = false) {failure : ε}
    (fails : load key = .error failure) : c.get load key = (.error failure, c.countMiss) :=
  get_of_failure (by simp [hit?, entry_none_iff.mpr absent]) fails

theorem hits_get (load : Key → Except ε Value) (key : Key) (c : RecencyCache Key Value) :
    (c.get load key).2.hits = c.hits + if c.contains key then 1 else 0 := by
  cases present : c.contains key with
  | true =>
    obtain ⟨entry, found⟩ := exists_entry present
    rw [get_present load found]
    rfl
  | false =>
    cases loaded : load key with
    | ok value =>
      rw [get_loaded present loaded]
      rfl
    | error failure =>
      rw [get_failed present loaded]
      rfl

theorem counted_get (load : Key → Except ε Value) (key : Key) (c : RecencyCache Key Value) :
    (c.get load key).2.hits + (c.get load key).2.misses = c.hits + c.misses + 1 := by
  cases present : c.contains key with
  | true =>
    obtain ⟨entry, found⟩ := exists_entry present
    rw [get_present load found]
    exact Nat.add_right_comm ..
  | false =>
    cases loaded : load key with
    | ok value =>
      rw [get_loaded present loaded]
      rfl
    | error failure =>
      rw [get_failed present loaded]
      rfl

theorem failure_of_get {failure : ε} (failed : (c.get load key).1 = .error failure) :
    c.contains key = false ∧ load key = .error failure := by
  cases present : c.contains key with
  | true =>
    obtain ⟨entry, found⟩ := exists_entry present
    rw [get_present load found] at failed
    cases failed
  | false =>
    cases loaded : load key with
    | ok value =>
      rw [get_loaded present loaded] at failed
      cases failed
    | error other =>
      rw [get_failed present loaded] at failed
      cases failed
      exact ⟨rfl, rfl⟩

end Gets

end HandlerRouting.RecencyCache
