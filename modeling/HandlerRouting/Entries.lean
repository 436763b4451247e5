/-!
Entries: a dictionary as a list of pairs in the order in which its keys first came. Assigning a
present key replaces the value and keeps the key's place.
-/

namespace HandlerRouting.Entries
variable {Key Value : Type} [BEq Key]

def assign (key : Key) (value : Value) : List (Key × Value) → List (Key × Value)
  | [] => [(key, value)]
  | (present, old) :: rest =>
    if present == key then (present, value) :: rest
    else (present, old) :: assign key value rest

/-- Assigns every pair in turn, so the last value of a repeated key stands at its first place. -/
def assignAll (pairs entries : List (Key × Value)) : List (Key × Value) :=
  pairs.foldl (fun entries (key, value) => assign key value entries) entries

def ofPairs (pairs : List (Key × Value)) : List (Key × Value) := assignAll pairs []

def keys (entries : List (Key × Value)) : List Key := entries.map Prod.fst

theorem keys_assign [LawfulBEq Key] (key : Key) (value : Value) (entries : List (Key × Value)) :
    keys (assign key value entries) =
      if key ∈ keys entries then keys entries else keys entries ++ [key] := by
  induction entries with
  | nil => simp [assign, keys]
  | cons pair rest ih =>
    obtain ⟨present, old⟩ := pair
    by_cases same : present = key
    · simp [assign, keys, same]
    · simp only [keys, List.map_cons] at ih ⊢
      simp only [assign, beq_eq_false_iff_ne.mpr same, Bool.false_eq_true, ↓reduceIte,
        List.map_cons, ih, List.mem_cons, Ne.symm same, false_or]
      by_cases member : key ∈ rest.map Prod.fst <;> simp [member]

theorem keys_assign_nodup [LawfulBEq Key] (key : Key) (value : Value)
    (entries : List (Key × Value)) (distinct : (keys entries).Nodup) :
    (keys (assign key value entries)).Nodup := by
  rw [keys_assign]
  split
  · exact distinct
  · rename_i absent
    exact List.nodup_append.mpr ⟨distinct, by simp, by
      intro a member b last same
      simp only [List.mem_singleton] at last
      exact absent (last ▸ same ▸ member)⟩

theorem assign_of_absent [LawfulBEq Key] {key : Key} {entries : List (Key × Value)}
    (absent : key ∉ keys entries) (value : Value) :
    assign key value entries = entries ++ [(key, value)] := by
  induction entries with
  | nil => rfl
  | cons pair rest ih =>
    simp only [keys, List.map_cons, List.mem_cons, not_or] at absent
    have other : (pair.1 == key) = false := beq_false_of_ne (Ne.symm absent.1)
    simp only [assign, other, Bool.false_eq_true, ↓reduceIte, List.cons_append]
    rw [ih absent.2]

theorem mem_assign [LawfulBEq Key] {key : Key} {value : Value} {entry : Key × Value}
    {entries : List (Key × Value)} (member : entry ∈ assign key value entries) :
    entry ∈ entries ∨ entry = (key, value) := by
  induction entries with
  | nil => exact Or.inr (List.mem_singleton.mp member)
  | cons pair rest ih =>
    obtain ⟨present, old⟩ := pair
    rw [assign] at member
    split at member
    · rename_i same
      rcases List.mem_cons.mp member with first | later
      · exact Or.inr (eq_of_beq same ▸ first)
      · exact Or.inl (List.mem_cons_of_mem _ later)
    · rcases List.mem_cons.mp member with first | later
      · exact Or.inl (List.mem_cons.mpr (Or.inl first))
      · rcases ih later with known | new
        · exact Or.inl (List.mem_cons_of_mem _ known)
        · exact Or.inr new

theorem mem_assign_all [LawfulBEq Key] {entry : Key × Value} {pairs entries : List (Key × Value)}
    (member : entry ∈ assignAll pairs entries) : entry ∈ entries ∨ entry ∈ pairs := by
  induction pairs generalizing entries with
  | nil => exact Or.inl member
  | cons pair rest ih =>
    rcases ih member with early | late
    · rcases mem_assign early with earlier | rfl
      · exact Or.inl earlier
      · exact Or.inr List.mem_cons_self
    · exact Or.inr (List.mem_cons_of_mem _ late)

theorem assign_all_of_distinct [LawfulBEq Key] {pairs entries : List (Key × Value)}
    (distinct : (keys (entries ++ pairs)).Nodup) : assignAll pairs entries = entries ++ pairs := by
  induction pairs generalizing entries with
  | nil => simp [assignAll]
  | cons pair rest ih =>
    have absent : pair.1 ∉ keys entries := by
      simp only [keys, List.map_append, List.map_cons] at distinct
      exact fun member => (List.nodup_append.mp distinct).2.2 _ member _ List.mem_cons_self rfl
    have step : assignAll (pair :: rest) entries = assignAll rest (entries ++ [pair]) :=
      congrArg (assignAll rest) (assign_of_absent absent pair.2)
    rw [step, ih (by simpa using distinct), List.append_assoc]
    rfl

theorem assign_all_distinct [LawfulBEq Key] {pairs : List (Key × Value)}
    (distinct : (keys pairs).Nodup) : assignAll pairs [] = pairs :=
  assign_all_of_distinct (by simpa using distinct)

theorem lookup_assign_self [LawfulBEq Key] (key : Key) (value : Value)
    (entries : List (Key × Value)) : (assign key value entries).lookup key = some value := by
  induction entries with
  | nil => simp [assign]
  | cons pair rest ih =>
    obtain ⟨present, old⟩ := pair
    by_cases same : present = key
    · simp [assign, same]
    · simp [assign, List.lookup_cons, beq_eq_false_iff_ne.mpr same,
        beq_eq_false_iff_ne.mpr (Ne.symm same), ih]

theorem lookup_of_mem [LawfulBEq Key] {key : Key} {value : Value} {entries : List (Key × Value)}
    (distinct : (keys entries).Nodup) (member : (key, value) ∈ entries) :
    entries.lookup key = some value := by
  induction entries with
  | nil => cases member
  | cons entry rest ih =>
    obtain ⟨present, old⟩ := entry
    obtain ⟨apart, others⟩ := List.nodup_cons.mp distinct
    rcases List.mem_cons.mp member with same | later
    · cases same
      exact List.lookup_cons_self
    · have other : key ≠ present := by
        intro same
        exact apart (List.mem_map.mpr ⟨(key, value), later, same⟩)
      simpa [List.lookup_cons, beq_false_of_ne other] using ih others later

theorem eq_of_key [LawfulBEq Key] {entry other : Key × Value} {entries : List (Key × Value)}
    (distinct : (keys entries).Nodup) (member : entry ∈ entries) (known : other ∈ entries)
    (same : entry.1 = other.1) : entry = other := by
  have found := lookup_of_mem distinct member
  rw [same, lookup_of_mem distinct known] at found
  exact Prod.ext same (Option.some.inj found).symm

theorem mem_of_lookup [LawfulBEq Key] {key : Key} {value : Value} {entries : List (Key × Value)}
    (found : entries.lookup key = some value) : (key, value) ∈ entries := by
  obtain ⟨front, back, rfl, _⟩ := List.lookup_eq_some_iff.mp found
  simp

theorem exists_mem_of_lookup {key : Key} {value : Value} {entries : List (Key × Value)}
    (found : entries.lookup key = some value) :
    ∃ entry ∈ entries, (key == entry.1) = true ∧ entry.2 = value := by
  induction entries with
  | nil => cases found
  | cons entry rest ih =>
    rw [List.lookup_cons] at found
    split at found
    · rename_i same
      cases found
      exact ⟨entry, by simp, same, rfl⟩
    · obtain ⟨other, member, rest⟩ := ih found
      exact ⟨other, by simp [member], rest⟩

theorem exists_lookup_of_mem {key : Key} {entry : Key × Value} {entries : List (Key × Value)}
    (member : entry ∈ entries) (same : (key == entry.1) = true) :
    ∃ value, entries.lookup key = some value := by
  apply Option.ne_none_iff_exists'.mp
  intro absent
  have other := List.lookup_eq_none_iff.mp absent entry member
  rw [bne, same] at other
  cases other

theorem lookup_congr [EquivBEq Key] {a b : Key} (same : (a == b) = true)
    (entries : List (Key × Value)) : entries.lookup a = entries.lookup b := by
  induction entries with
  | nil => rfl
  | cons entry rest ih =>
    obtain ⟨present, value⟩ := entry
    simp only [List.lookup_cons, BEq.congr_left same, ih]

/-- The order of entries with distinct keys does not matter to a lookup. -/
theorem lookup_perm [LawfulBEq Key] {entries others : List (Key × Value)}
    (distinct : (keys entries).Nodup) (order : entries.Perm others) (key : Key) :
    entries.lookup key = others.lookup key := by
  have distinctOthers : (keys others).Nodup := (order.map Prod.fst).nodup_iff.mp distinct
  apply Option.ext
  intro value
  constructor
  · intro found
    exact lookup_of_mem distinctOthers (order.mem_iff.mp (mem_of_lookup found))
  · intro found
    exact lookup_of_mem distinct (order.mem_iff.mpr (mem_of_lookup found))

end HandlerRouting.Entries
