import HandlerRouting.Entries

/-!
Assigning entries, with values changed and with keys renamed. Values may be changed before or after
they are assigned. Keys may be renamed before or after, too, as long as no two of them that are
assigned become one.
-/

namespace HandlerRouting

namespace Entries
variable {Key Value : Type} [BEq Key] [LawfulBEq Key]

section Changing
variable (change : Key → Value → Value)

def changeValues (entries : List (Key × Value)) : List (Key × Value) :=
  entries.map fun entry => (entry.1, change entry.1 entry.2)

theorem change_assign (key : Key) (value : Value) (entries : List (Key × Value)) :
    changeValues change (assign key value entries) =
      assign key (change key value) (changeValues change entries) := by
  induction entries with
  | nil => rfl
  | cons entry rest ih =>
    obtain ⟨present, old⟩ := entry
    simp only [changeValues, List.map_cons, assign] at ih ⊢
    by_cases same : present = key
    · simp [same]
    · simp [same, ih]

theorem change_assign_all (pairs entries : List (Key × Value)) :
    changeValues change (assignAll pairs entries) =
      assignAll (changeValues change pairs) (changeValues change entries) := by
  induction pairs generalizing entries with
  | nil => rfl
  | cons pair rest ih =>
    have step := ih (assign pair.1 pair.2 entries)
    rw [change_assign] at step
    exact step

theorem change_of_pairs (pairs : List (Key × Value)) :
    changeValues change (ofPairs pairs) = ofPairs (changeValues change pairs) :=
  change_assign_all change pairs []

omit [BEq Key] [LawfulBEq Key] in
theorem keys_change (entries : List (Key × Value)) :
    keys (changeValues change entries) = keys entries := by
  simp [keys, changeValues]

theorem values_of_perm {entries : List (Key × Value)} (distinct : (keys entries).Nodup)
    (one other : Key → Value → Value)
    (same : (changeValues one entries).Perm (changeValues other entries)) :
    ∀ entry ∈ entries, one entry.1 entry.2 = other entry.1 entry.2 := by
  intro entry listed
  have first := same.subset (List.mem_map_of_mem listed)
  have second : (entry.1, other entry.1 entry.2) ∈ changeValues other entries :=
    List.mem_map_of_mem listed
  rw [← keys_change other] at distinct
  exact congrArg Prod.snd (eq_of_key distinct first second rfl)

end Changing

section Replacing
variable {key other : Key} {value : Value} {entries : List (Key × Value)}

theorem assign_again (key : Key) (value old : Value) (entries : List (Key × Value)) :
    assign key value (assign key old entries) = assign key value entries := by
  induction entries with
  | nil => simp [assign]
  | cons entry rest ih =>
    obtain ⟨present, kept⟩ := entry
    by_cases same : present = key
    · simp [assign, same]
    · simp [assign, same, ih]

theorem assign_swap (differ : other ≠ key) (present : key ∈ keys entries) (value new : Value) :
    assign key value (assign other new entries) = assign other new (assign key value entries) := by
  induction entries with
  | nil => cases present
  | cons entry rest ih =>
    obtain ⟨first, kept⟩ := entry
    simp only [keys, List.map_cons, List.mem_cons] at present ih
    by_cases same : first = key
    · simp [assign, same, Ne.symm differ]
    · by_cases sameOther : first = other
      · simp [assign, sameOther, differ]
      · simp [assign, same, sameOther, ih (present.resolve_left (Ne.symm same))]

theorem assign_assign_all {pairs : List (Key × Value)} (apart : key ∉ keys pairs)
    (present : key ∈ keys entries) (value : Value) :
    assign key value (assignAll pairs entries) = assignAll pairs (assign key value entries) := by
  induction pairs generalizing entries with
  | nil => rfl
  | cons pair rest ih =>
    simp only [keys, List.map_cons, List.mem_cons, not_or] at apart
    have there : key ∈ keys (assign pair.1 pair.2 entries) := by
      rw [keys_assign]
      split
      · exact present
      · exact List.mem_append_left _ present
    have step := ih apart.2 there
    rw [assign_swap (Ne.symm apart.1) present] at step
    exact step

theorem assign_in_place {front back : List (Key × Value)} (apart : key ∉ keys front)
    (value old : Value) :
    assign key value (front ++ (key, old) :: back) = front ++ (key, value) :: back := by
  induction front with
  | nil => simp [assign]
  | cons entry rest ih =>
    simp only [keys, List.map_cons, List.mem_cons, not_or] at apart
    have other : (entry.1 == key) = false := beq_false_of_ne (Ne.symm apart.1)
    simp only [List.cons_append, assign, other, Bool.false_eq_true, ↓reduceIte]
    rw [ih apart.2]

end Replacing

section Renaming
variable (rename : Key → Key)

def renameKeys (entries : List (Key × Value)) : List (Key × Value) :=
  entries.map fun entry => (rename entry.1, entry.2)

omit [BEq Key] [LawfulBEq Key] in
theorem keys_rename (entries : List (Key × Value)) :
    keys (renameKeys rename entries) = (keys entries).map rename := by
  simp [keys, renameKeys]

variable {rename} {key : Key} {pairs entries : List (Key × Value)}

theorem of_pairs_rename_assign (distinct : (keys entries).Nodup)
    (single : key ∈ keys entries → ∀ other ∈ keys entries, rename other = rename key → other = key)
    (value : Value) :
    ofPairs (renameKeys rename (assign key value entries)) =
      assign (rename key) value (ofPairs (renameKeys rename entries)) := by
  by_cases present : key ∈ keys entries
  · obtain ⟨⟨name, old⟩, listed, rfl⟩ := List.mem_map.mp present
    obtain ⟨front, back, rfl⟩ := List.append_of_mem listed
    have names : keys (front ++ (name, old) :: back) = keys front ++ name :: keys back := by
      simp [keys]
    rw [names] at distinct single
    obtain ⟨_, behind, apart⟩ := List.nodup_append.mp distinct
    have notBefore : name ∉ keys front := fun member => apart name member name (by simp) rfl
    have notBehind : rename name ∉ keys (renameKeys rename back) := by
      rw [keys_rename, List.mem_map]
      rintro ⟨other, member, same⟩
      obtain rfl := single (by simp) other (by simp [member]) same
      exact (List.nodup_cons.mp behind).1 member
    -- What stands behind does not touch the key, so the new value may come last.
    have split (kept : Value) : ofPairs (renameKeys rename (front ++ (name, kept) :: back)) =
        assignAll (renameKeys rename back)
          (assign (rename name) kept (ofPairs (renameKeys rename front))) := by
      simp only [renameKeys, List.map_append, List.map_cons, ofPairs, assignAll,
        List.foldl_append, List.foldl_cons]
    have there : rename name ∈ keys (assign (rename name) old
        (ofPairs (renameKeys rename front))) :=
      List.mem_map_of_mem (mem_of_lookup (lookup_assign_self ..))
    rw [assign_in_place notBefore, split, split, assign_assign_all notBehind there, assign_again]
  · rw [assign_of_absent present]
    simp only [renameKeys, List.map_append, ofPairs, assignAll, List.foldl_append]
    rfl

theorem of_pairs_rename_assign_all (distinct : (keys entries).Nodup)
    (apart : (keys (renameKeys rename pairs)).Nodup)
    (single : ∀ key ∈ keys pairs, key ∈ keys entries →
      ∀ other ∈ keys entries, rename other = rename key → other = key) :
    ofPairs (renameKeys rename (assignAll pairs entries)) =
      assignAll (renameKeys rename pairs) (ofPairs (renameKeys rename entries)) := by
  induction pairs generalizing entries with
  | nil => rfl
  | cons pair rest ih =>
    obtain ⟨key, value⟩ := pair
    have names : (rename key :: (keys rest).map rename).Nodup := by
      rw [← keys_rename]
      exact apart
    obtain ⟨fresh, later⟩ := List.nodup_cons.mp names
    rw [← keys_rename] at later
    have differ : ∀ other ∈ keys rest, rename other ≠ rename key := fun other member same =>
      fresh (List.mem_map.mpr ⟨other, member, same⟩)
    have singleStill : ∀ other ∈ keys rest, other ∈ keys (assign key value entries) →
        ∀ another ∈ keys (assign key value entries), rename another = rename other →
          another = other := by
      intro other member present another presentToo same
      have known {name : Key} (among : name ∈ keys (assign key value entries))
          (notKey : rename name ≠ rename key) : name ∈ keys entries := by
        rw [keys_assign] at among
        split at among
        · exact among
        · refine (List.mem_append.mp among).resolve_right fun last => ?_
          exact notKey (congrArg rename (List.mem_singleton.mp last))
      exact single other (List.mem_cons_of_mem _ member) (known present (differ other member))
        another (known presentToo (same ▸ differ other member)) same
    have step := ih (keys_assign_nodup key value entries distinct) later singleStill
    rw [of_pairs_rename_assign distinct (single key List.mem_cons_self)] at step
    exact step

end Renaming

end Entries

end HandlerRouting
