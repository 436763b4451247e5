import HandlerRouting.MediaType.Repetition
import HandlerRouting.Proofs.MediaType.Grammar

/-!
What becomes of repeated parameters. Collecting leaves one pair for each writing of a name, and
reading leaves one parameter for each name; both are described by what stands and prevails among
the written pairs.
-/

namespace HandlerRouting

namespace Entries
variable {Key Value : Type} [BEq Key] [LawfulBEq Key]

theorem mem_assign_iff {key : Key} {value : Value} {entry : Key × Value}
    {entries : List (Key × Value)} (distinct : (keys entries).Nodup) :
    entry ∈ assign key value entries ↔ entry ∈ entries ∧ entry.1 ≠ key ∨ entry = (key, value) := by
  have assigned := mem_of_lookup (lookup_assign_self key value entries)
  constructor
  · intro member
    by_cases same : entry.1 = key
    · exact Or.inr (eq_of_key (keys_assign_nodup key value entries distinct) member assigned same)
    · rcases mem_assign member with old | new
      · exact Or.inl ⟨old, same⟩
      · exact Or.inr new
  · rintro (⟨old, other⟩ | rfl)
    · clear assigned
      induction entries with
      | nil => cases old
      | cons first rest ih =>
        rw [assign]
        rcases List.mem_cons.mp old with rfl | later
        · rw [if_neg (by simpa using other)]
          exact List.mem_cons_self
        · have member := ih (List.nodup_cons.mp distinct).2 later
          split
          · exact List.mem_cons_of_mem _ later
          · exact List.mem_cons_of_mem _ member
    · exact assigned

theorem of_pairs_nodup (pairs : List (Key × Value)) : (keys (ofPairs pairs)).Nodup :=
  List.foldlRecOn pairs _ (by simp [keys]) fun entries apart pair _ =>
    keys_assign_nodup pair.1 pair.2 entries apart

theorem keys_assign_all (pairs entries : List (Key × Value)) :
    keys (assignAll pairs entries) = keys entries ++ firstsAfter (keys entries) (keys pairs) := by
  induction pairs generalizing entries with
  | nil => exact (List.append_nil _).symm
  | cons pair rest ih =>
    have step : assignAll (pair :: rest) entries =
      assignAll rest (assign pair.1 pair.2 entries) := rfl
    have names : keys (pair :: rest) = pair.1 :: keys rest := rfl
    rw [step, ih, keys_assign, names, firstsAfter]
    by_cases met : pair.1 ∈ keys entries
    · have known : (keys entries).any (· == pair.1) = true := by simpa using met
      rw [if_pos met, if_pos known]
    · have unmet : ¬ (keys entries).any (· == pair.1) = true := by simpa using met
      have order : firstsAfter (keys entries ++ [pair.1]) (keys rest) =
          firstsAfter (pair.1 :: keys entries) (keys rest) := by
        refine firsts_after_congr _ fun key => ?_
        simp only [List.any_append, List.any_cons, List.any_nil, Bool.or_false]
        exact Bool.or_comm _ _
      rw [if_neg met, if_neg unmet, order, List.append_assoc]
      rfl

theorem keys_of_pairs (pairs : List (Key × Value)) :
    keys (ofPairs pairs) = distinct (keys pairs) := keys_assign_all pairs []

end Entries

namespace MediaType

open Text

section Standing
variable {pairs settled : List (List Char × List Char)} {pair : List Char × List Char}

theorem stands_cons_iff (first : List Char × List Char) :
    Stands (first :: pairs) pair ↔
      Stands pairs pair ∨ pair = first ∧ pair.1 ∉ Entries.keys pairs := by
  constructor
  · rintro ⟨front, back, parts, last⟩
    rcases List.cons_eq_append_iff.mp parts with ⟨rfl, here⟩ | ⟨before, rfl, rfl⟩
    · cases here
      exact Or.inr ⟨rfl, last⟩
    · exact Or.inl ⟨before, back, rfl, last⟩
  · rintro (⟨front, back, rfl, last⟩ | ⟨rfl, last⟩)
    · exact ⟨first :: front, back, rfl, last⟩
    · exact ⟨[], pairs, rfl, last⟩

/-- Assigning pairs keeps those that stand among them and, of what was there, the names that they
do not write. -/
theorem mem_assign_all_iff {entries : List (List Char × List Char)}
    (distinct : (Entries.keys entries).Nodup) :
    pair ∈ Entries.assignAll pairs entries ↔
      Stands pairs pair ∨ pair ∈ entries ∧ pair.1 ∉ Entries.keys pairs := by
  induction pairs generalizing entries with
  | nil => simp [Entries.assignAll, Stands, Entries.keys]
  | cons first rest ih =>
    have step : Entries.assignAll (first :: rest) entries =
      Entries.assignAll rest (Entries.assign first.1 first.2 entries) := rfl
    rw [step, ih (Entries.keys_assign_nodup _ _ _ distinct), Entries.mem_assign_iff distinct,
      stands_cons_iff]
    simp only [Entries.keys, List.map_cons, List.mem_cons, not_or]
    tauto

theorem mem_of_pairs_iff (pairs : List (List Char × List Char)) (pair : List Char × List Char) :
    pair ∈ Entries.ofPairs pairs ↔ Stands pairs pair := by
  rw [Entries.ofPairs, mem_assign_all_iff (by simp [Entries.keys])]
  simp

theorem settles_of_pairs (pairs : List (List Char × List Char)) :
    Settles pairs (Entries.ofPairs pairs) :=
  ⟨Entries.keys_of_pairs pairs, fun pair => (mem_of_pairs_iff pairs pair).mp⟩

/-- There is one way to settle pairs. -/
theorem settles_iff : Settles pairs settled ↔ settled = Entries.ofPairs pairs := by
  constructor
  · intro settles
    have order := settles.order.trans (Entries.keys_of_pairs pairs).symm
    have lengths : settled.length = (Entries.ofPairs pairs).length := by
      simpa [Entries.keys] using congrArg List.length order
    -- The same keys in the same order, each with the one value that its key has.
    refine List.ext_getElem lengths fun i here there => ?_
    have known := (mem_of_pairs_iff pairs _).mpr (settles.stand _ (List.getElem_mem here))
    have names := List.getElem_of_eq order (by simpa [Entries.keys] using here)
    exact Entries.eq_of_key (Entries.of_pairs_nodup pairs) known (List.getElem_mem there)
      (by simpa [Entries.keys] using names)
  · rintro rfl
    exact settles_of_pairs pairs

end Standing

section Giving
variable {pairs given : List (List Char × List Char)}

theorem gives_iff (text : String) (pair parameter : List Char × List Char) :
    Gives pair parameter ↔ readParameter text pair.1 pair.2 = .ok parameter := by
  obtain ⟨writing, value⟩ := pair
  obtain ⟨key, kept⟩ := parameter
  constructor
  · intro gives
    cases gives with
    | mk token means admits => exact (read_parameter_iff ..).mpr ⟨rfl, token, _, means, admits⟩
  · intro read
    obtain ⟨rfl, token, meant, means, admits⟩ := (read_parameter_iff ..).mp read
    exact .mk token means admits

theorem Gives.name {pair parameter : List Char × List Char} (gives : Gives pair parameter) :
    parameter.1 = plainName pair.1 := by
  cases gives
  rfl

theorem Gives.unique {pair parameter other : List Char × List Char} (gives : Gives pair parameter)
    (same : Gives pair other) : parameter = other := by
  have first := (gives_iff "" pair parameter).mp gives
  rw [(gives_iff "" pair other).mp same] at first
  exact (Except.ok.inj first).symm

theorem readable_iff (pairs : List (List Char × List Char)) :
    Readable pairs ↔ ∃ given, List.Forall₂ Gives (Entries.ofPairs pairs) given := by
  simp only [exists_related_iff, Readable, mem_of_pairs_iff]

theorem names_of_given (each : List.Forall₂ Gives pairs given) :
    Entries.keys given = pairs.map fun pair => plainName pair.1 := by
  induction each with
  | nil => rfl
  | cons gives _ ih => simpa [Entries.keys, gives.name] using ih

theorem stands_given_iff (each : List.Forall₂ Gives pairs given)
    (parameter : List Char × List Char) :
    Stands given parameter ↔ ∃ front pair back, pairs = front ++ pair :: back ∧
      (∀ other ∈ back, plainName other.1 ≠ plainName pair.1) ∧ Gives pair parameter := by
  induction each with
  | nil => simp [Stands]
  | @cons first made rest given gives each ih =>
    have apart : made.1 ∉ Entries.keys given ↔
        ∀ other ∈ rest, plainName other.1 ≠ plainName first.1 := by
      rw [names_of_given each, gives.name]
      simp
    rw [stands_cons_iff, ih]
    constructor
    · rintro (⟨front, pair, back, rfl, behind, made⟩ | ⟨rfl, last⟩)
      · exact ⟨first :: front, pair, back, rfl, behind, made⟩
      · exact ⟨[], first, rest, rfl, apart.mp last, gives⟩
    · rintro ⟨front, pair, back, parts, behind, made⟩
      rcases List.cons_eq_append_iff.mp parts with ⟨rfl, here⟩ | ⟨before, rfl, rfl⟩
      · cases here
        cases gives.unique made
        exact Or.inr ⟨rfl, apart.mpr behind⟩
      · exact Or.inl ⟨before, pair, back, rfl, behind, made⟩

/-- The parameters kept are those that the prevailing pairs give. -/
theorem mem_given_iff (each : List.Forall₂ Gives (Entries.ofPairs pairs) given)
    (parameter : List Char × List Char) :
    parameter ∈ Entries.ofPairs given ↔ ∃ pair, Prevails pairs pair ∧ Gives pair parameter := by
  rw [mem_of_pairs_iff, stands_given_iff each]
  simp only [Prevails, settles_iff]
  constructor
  · rintro ⟨front, pair, back, settled, behind, gives⟩
    exact ⟨pair, ⟨front, back, settled.symm, behind⟩, gives⟩
  · rintro ⟨pair, ⟨front, back, settled, behind⟩, gives⟩
    exact ⟨front, pair, back, settled.symm, behind, gives⟩

theorem mem_keys_given_iff (each : List.Forall₂ Gives (Entries.ofPairs pairs) given)
    (name : List Char) :
    name ∈ Entries.keys (Entries.ofPairs given) ↔ ∃ pair ∈ pairs, plainName pair.1 = name := by
  have written : ∀ writing, writing ∈ Entries.keys (Entries.ofPairs pairs) ↔
      writing ∈ Entries.keys pairs := fun writing => by
    rw [Entries.keys_of_pairs, mem_distinct]
  rw [Entries.keys_of_pairs, mem_distinct, names_of_given each]
  simp only [Entries.keys, List.mem_map] at written ⊢
  constructor
  · rintro ⟨pair, settled, rfl⟩
    obtain ⟨other, member, same⟩ := (written pair.1).mp ⟨pair, settled, rfl⟩
    exact ⟨other, member, congrArg plainName same⟩
  · rintro ⟨pair, member, rfl⟩
    obtain ⟨other, settled, same⟩ := (written pair.1).mpr ⟨pair, member, rfl⟩
    exact ⟨other, settled, congrArg plainName same⟩

end Giving

section Texts

theorem writes_iff (parts : List (List Char)) (pairs : List (List Char × List Char)) :
    Writes parts pairs ↔ List.Forall₂ (fun part pair => splitParameter? (trim part) = some pair)
      (parts.filter fun part => !(trim part).isEmpty) pairs := by
  induction parts generalizing pairs with
  | nil =>
    constructor
    · intro writes
      cases writes
      exact .nil
    · intro split
      cases split
      exact .none
  | cons part rest ih =>
    by_cases blank : trim part = []
    · rw [List.filter_cons_of_neg (by simp [blank]), ← ih]
      constructor
      · intro writes
        cases writes with
        | blank _ others => exact others
        | pair parts => simp [blank] at parts
      · exact .blank blank
    · rw [List.filter_cons_of_pos (by simp [blank])]
      constructor
      · intro writes
        cases writes with
        | blank empty _ => exact absurd empty blank
        | pair parts first others =>
          exact .cons ((split_parameter_iff ..).mpr ⟨parts, first⟩) ((ih _).mp others)
      · intro split
        cases split with
        | @cons _ pair _ _ split others =>
          obtain ⟨parts, first⟩ := (split_parameter_iff _ pair.1 pair.2).mp split
          exact .pair parts first ((ih _).mpr others)

theorem collect_written_iff (text : String) (parts : List (List Char))
    (gathered : List (List Char × List Char)) :
    collectParameters text [] parts = .ok gathered ↔
      ∃ pairs, Writes parts pairs ∧ gathered = Entries.ofPairs pairs := by
  simp only [collect_parameters_iff, writes_iff, Entries.ofPairs]

theorem written_iff (s type subtype : List Char) (pairs : List (List Char × List Char)) :
    Written s type subtype pairs ↔
      SpellsTypes (segments s).1 type subtype ∧ Writes (segments s).2 pairs := by
  constructor
  · rintro ⟨divides, types, written⟩
    rw [(divides_iff ..).mp divides]
    exact ⟨types, written⟩
  · rintro ⟨types, written⟩
    exact ⟨divides_segments s, types, written⟩

theorem Writes.unique {parts : List (List Char)} {pairs others : List (List Char × List Char)}
    (writes : Writes parts pairs) (same : Writes parts others) : pairs = others := by
  refine List.right_unique_forall₂' ?_ ((writes_iff ..).mp writes) ((writes_iff ..).mp same)
  intro part pair other split again
  exact Option.some.inj (split.symm.trans again)

/-- What is read of a text: its types, and a parameter for each name from the writing of it that
prevails. -/
theorem parse_written_iff (text : String) (m : MediaType) :
    parse text = .ok m ↔ ∃ pairs given, Written text.toList m.type m.subtype pairs ∧
      List.Forall₂ Gives (Entries.ofPairs pairs) given ∧
      m.parameters = Entries.ofPairs given := by
  have read : ∀ pairs, readParameters text [] pairs = .ok m.parameters ↔
      ∃ given, List.Forall₂ Gives pairs given ∧ m.parameters = Entries.ofPairs given := by
    intro pairs
    simp only [read_parameters_iff, ← gives_iff]
    rfl
  simp only [parse_ok_iff, collect_written_iff, written_iff]
  constructor
  · rintro ⟨types, _, ⟨pairs, writes, rfl⟩, done⟩
    obtain ⟨given, each, kept⟩ := (read _).mp done
    exact ⟨pairs, given, ⟨types, writes⟩, each, kept⟩
  · rintro ⟨pairs, given, ⟨types, writes⟩, each, kept⟩
    exact ⟨types, _, ⟨pairs, writes, rfl⟩, (read _).mpr ⟨given, each, kept⟩⟩

theorem Written.unique {s type subtype otherType otherSubtype : List Char}
    {pairs others : List (List Char × List Char)} (written : Written s type subtype pairs)
    (same : Written s otherType otherSubtype others) :
    type = otherType ∧ subtype = otherSubtype ∧ pairs = others := by
  obtain ⟨types, writes⟩ := (written_iff ..).mp written
  obtain ⟨otherTypes, otherWrites⟩ := (written_iff ..).mp same
  exact ⟨(types.unique otherTypes).1, (types.unique otherTypes).2, writes.unique otherWrites⟩

section Characters

theorem mem_of_unescaped {c : Char} {s : List Char} (member : c ∈ unescapeQuotes s) : c ∈ s := by
  fun_induction unescapeQuotes s with
  | case1 rest ih =>
    rcases List.mem_cons.mp member with rfl | later
    · simp
    · simp [ih later]
  | case2 d rest _ ih =>
    rcases List.mem_cons.mp member with rfl | later
    · simp
    · simp [ih later]
  | case3 => cases member

theorem Means.subset {value meant : List Char} (means : Means value meant) {c : Char}
    (member : c ∈ meant) : c ∈ value := by
  cases means with
  | quotes content known => simp [mem_of_unescaped member]
  | token => exact member

theorem mem_of_trimmed {c : Char} {s : List Char} (member : c ∈ trim s) : c ∈ s := by
  have kept : c ∈ s.dropWhile isBlank := by
    have reversed := (List.dropWhile_sublist isBlank).subset (List.mem_reverse.mp member)
    exact List.mem_reverse.mp reversed
  exact (List.dropWhile_sublist isBlank).subset kept

theorem Writes.value_subset {parts : List (List Char)} {pairs : List (List Char × List Char)}
    (writes : Writes parts pairs) {pair : List Char × List Char} (listed : pair ∈ pairs) {c : Char}
    (member : c ∈ pair.2) : ∃ part ∈ parts, c ∈ part := by
  induction writes with
  | none => cases listed
  | blank _ _ ih =>
    obtain ⟨part, among, holds⟩ := ih listed
    exact ⟨part, List.mem_cons_of_mem _ among, holds⟩
  | @pair segment name value rest pairs parts _ _ ih =>
    rcases List.mem_cons.mp listed with rfl | later
    · have inside : c ∈ trim segment := by simp [parts, member]
      exact ⟨segment, List.mem_cons_self, mem_of_trimmed inside⟩
    · obtain ⟨part, among, holds⟩ := ih later
      exact ⟨part, List.mem_cons_of_mem _ among, holds⟩

theorem Written.value_subset {s type subtype : List Char} {pairs : List (List Char × List Char)}
    (written : Written s type subtype pairs) {pair : List Char × List Char} (listed : pair ∈ pairs)
    {c : Char} (member : c ∈ pair.2) : c ∈ s := by
  obtain ⟨_, writes⟩ := (written_iff ..).mp written
  obtain ⟨part, among, holds⟩ := writes.value_subset listed member
  rw [← join_segments_from .outside s, joinSegments, List.mem_append, List.mem_flatMap]
  exact Or.inr ⟨part, among, List.mem_cons_of_mem _ holds⟩

theorem Settles.listed {pairs settled : List (List Char × List Char)}
    (settles : Settles pairs settled) {pair : List Char × List Char} (among : pair ∈ settled) :
    pair ∈ pairs := by
  obtain ⟨front, back, parts, _⟩ := settles.stand pair among
  simp [parts]

theorem Prevails.listed {pairs : List (List Char × List Char)} {pair : List Char × List Char}
    (prevails : Prevails pairs pair) : pair ∈ pairs := by
  obtain ⟨front, back, settles, _⟩ := prevails
  exact settles.listed (by simp)

end Characters

section OneText
variable {text : String} {type subtype : List Char} {pairs : List (List Char × List Char)}

theorem parse_of_written (written : Written text.toList type subtype pairs) (m : MediaType) :
    parse text = .ok m ↔ m.type = type ∧ m.subtype = subtype ∧
      ∃ given, List.Forall₂ Gives (Entries.ofPairs pairs) given ∧
        m.parameters = Entries.ofPairs given := by
  rw [parse_written_iff]
  constructor
  · rintro ⟨others, given, same, each, kept⟩
    obtain ⟨rfl, rfl, rfl⟩ := written.unique same
    exact ⟨rfl, rfl, given, each, kept⟩
  · rintro ⟨rfl, rfl, given, each, kept⟩
    exact ⟨pairs, given, written, each, kept⟩

theorem parse_readable_iff (written : Written text.toList type subtype pairs) :
    (∃ m, parse text = .ok m) ↔ Readable pairs := by
  simp only [parse_of_written written, readable_iff]
  constructor
  · rintro ⟨m, _, _, given, each, _⟩
    exact ⟨given, each⟩
  · rintro ⟨given, each⟩
    exact ⟨⟨type, subtype, Entries.ofPairs given⟩, rfl, rfl, given, each, rfl⟩

end OneText

end Texts

end MediaType

end HandlerRouting
