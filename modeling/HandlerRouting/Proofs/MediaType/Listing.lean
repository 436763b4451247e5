import HandlerRouting.Proofs.MediaType.Repetition
import HandlerRouting.Proofs.MediaType.WrittenSegments

/-!
Lists of media types between writing and reading. Reading splits a list at every comma before it
looks at quotes, and writing puts a comma into a part only for a value that has one. So no media
type that is read from a list has a comma in a value, and a list without such values comes back.
-/

namespace HandlerRouting.MediaType

open Text

section Commas

theorem split_commas_eq (s : List Char) : splitCommas s = s.splitOn ',' := by
  induction s with
  | nil => rfl
  | cons c rest ih =>
    rw [splitCommas, List.splitOn_cons_eq_if_modifyHead, ih]
    cases pieces : rest.splitOn ',' with
    | nil => exact absurd pieces (List.splitOn_ne_nil _ _)
    | cons first others => simp [List.modifyHead]

theorem comma_not_mem_piece {s piece : List Char} (listed : piece ∈ splitCommas s) :
    ',' ∉ piece := by
  induction s generalizing piece with
  | nil =>
    rw [List.mem_singleton.mp listed]
    simp
  | cons c rest ih =>
    rw [splitCommas] at listed
    cases pieces : splitCommas rest with
    | nil => simp [split_commas_eq] at pieces
    | cons first others =>
      simp only [pieces] at listed ih
      split at listed
      · rcases List.mem_cons.mp listed with rfl | later
        · simp
        · exact ih later
      · rename_i other
        rcases List.mem_cons.mp listed with rfl | later
        · simp [Ne.symm other, ih (List.mem_cons_self ..)]
        · exact ih (List.mem_cons_of_mem _ later)

theorem write_list_cons (m : MediaType) (ms : List MediaType) :
    writeList (m :: ms) = [','].intercalate (m.write :: ms.map fun n => ' ' :: n.write) := by
  induction ms generalizing m with
  | nil => rfl
  | cons n ms ih =>
    have first : writeList (m :: n :: ms) = m.write ++ [',', ' '] ++ writeList (n :: ms) :=
      List.intercalate_cons_cons
    have later : [','].intercalate ((' ' :: n.write) :: ms.map fun k => ' ' :: k.write) =
        ' ' :: writeList (n :: ms) := by
      rw [ih]
      cases ms <;> simp
    rw [first, List.map_cons, List.intercalate_cons_cons, later]
    simp

theorem split_write_list {m : MediaType} {ms : List MediaType}
    (plain : ∀ n ∈ m :: ms, ',' ∉ n.write) :
    splitCommas (writeList (m :: ms)) = m.write :: ms.map fun n => ' ' :: n.write := by
  rw [split_commas_eq, write_list_cons]
  refine List.splitOn_intercalate ',' ?_ (by simp)
  intro piece listed
  rcases List.mem_cons.mp listed with rfl | later
  · exact plain m (by simp)
  · obtain ⟨n, among, rfl⟩ := List.mem_map.mp later
    simp [plain n (List.mem_cons_of_mem _ among)]

theorem comma_written_iff {m : MediaType} (formed : WellFormed m) :
    ',' ∈ m.write ↔ ∃ parameter ∈ m.parameters, ',' ∈ parameter.2 := by
  have types := types_plain formed ',' (by decide) (by decide)
  have parameters : ∀ parameter ∈ m.parameters,
      (',' ∈ writeParameter parameter ↔ ',' ∈ parameter.2) := by
    intro parameter known
    have name : ',' ∉ parameter.1 := not_mem_token (by decide)
      (token_of_plain (formed.nameTokens _ (List.mem_map_of_mem known)))
    simp [writeParameter, name, mem_write_value_iff]
  rw [write, List.mem_append, List.mem_flatMap]
  simp only [types, false_or]
  constructor
  · rintro ⟨parameter, known, comma⟩
    exact ⟨parameter, known, (parameters parameter known).mp comma⟩
  · rintro ⟨parameter, known, comma⟩
    exact ⟨parameter, known, (parameters parameter known).mpr comma⟩

end Commas

section Values

theorem Gives.mem_value {pair parameter : List Char × List Char} (gives : Gives pair parameter)
    {c : Char} (early : c.toNat < 'A'.toNat) (member : c ∈ parameter.2) : c ∈ pair.2 := by
  cases gives with
  | mk token means admits =>
    have meant := List.count_pos_iff.mpr member
    rw [admits.count early] at meant
    exact mem_of_trimmed (means.subset (List.count_pos_iff.mp meant))

theorem mem_text_of_value {text : String} {m : MediaType} (read : parse text = .ok m) {c : Char}
    (early : c.toNat < 'A'.toNat) {parameter : List Char × List Char}
    (listed : parameter ∈ m.parameters) (member : c ∈ parameter.2) : c ∈ text.toList := by
  obtain ⟨pairs, given, written, each, kept⟩ := (parse_written_iff text m).mp read
  rw [kept] at listed
  obtain ⟨pair, prevails, gives⟩ := (mem_given_iff each parameter).mp listed
  exact written.value_subset prevails.listed (gives.mem_value early member)

end Values

section Parts

theorem SpellsTypes.of_trim {segment other type subtype : List Char}
    (spells : SpellsTypes segment type subtype) (same : trim segment = trim other) :
    SpellsTypes other type subtype := by
  cases spells with
  | all lone => exact .all (same ▸ lone)
  | pair parts first more typeToken subtypeToken wildcards =>
    exact .pair (same ▸ parts) first more typeToken subtypeToken wildcards

theorem parse_behind_blank (s : List Char) (m : MediaType) :
    parseChars (' ' :: s) = .ok m ↔ parseChars s = .ok m := by
  have split : segments (' ' :: s) = (' ' :: (segments s).1, (segments s).2) :=
    segments_from_cons (by decide) s
  have trimmed : trim (' ' :: (segments s).1) = trim (segments s).1 := rfl
  have written : ∀ type subtype pairs, Written (' ' :: s) type subtype pairs ↔
      Written s type subtype pairs := by
    intro type subtype pairs
    rw [written_iff, written_iff, split]
    exact and_congr_left' ⟨fun types => types.of_trim trimmed,
      fun types => types.of_trim trimmed.symm⟩
  have read : ∀ t, parseChars t = .ok m ↔ ∃ pairs given, Written t m.type m.subtype pairs ∧
      List.Forall₂ Gives (Entries.ofPairs pairs) given ∧
      m.parameters = Entries.ofPairs given := by
    intro t
    simpa [parse] using parse_written_iff (String.ofList t) m
  simp only [read, written]

theorem not_blank_of_parse {s : List Char} {m : MediaType} (read : parseChars s = .ok m) :
    allBlank s = false := by
  rw [← Bool.not_eq_true]
  intro blank
  simp [parseChars, blank] at read

/-- A list is read part by part, blank parts left out. -/
theorem parse_list_iff (text : String) (ms : List MediaType) :
    parseList text = .ok ms ↔ List.Forall₂ (fun part m => parseChars part = .ok m)
      ((splitCommas text.toList).filter fun part => !allBlank part) ms := map_m_ok_iff ..

theorem exists_part {text : String} {ms : List MediaType} {m : MediaType}
    (read : parseList text = .ok ms) (listed : m ∈ ms) :
    ∃ part ∈ splitCommas text.toList, parse (String.ofList part) = .ok m := by
  obtain ⟨part, among, parsed⟩ := exists_related ((parse_list_iff text ms).mp read) listed
  exact ⟨part, List.mem_of_mem_filter among, by simpa [parse] using parsed⟩

end Parts

theorem no_comma_of_parse_list {text : String} {ms : List MediaType}
    (read : parseList text = .ok ms) :
    ∀ m ∈ ms, ∀ parameter ∈ m.parameters, ',' ∉ parameter.2 := by
  intro m listed parameter known comma
  obtain ⟨part, among, parsed⟩ := exists_part read listed
  have inside := mem_text_of_value parsed (by decide) known comma
  rw [String.toList_ofList] at inside
  exact comma_not_mem_piece among inside

/-- Where no written form has a comma, a list is read as its media types are. -/
theorem parse_write_list {ms ns : List MediaType} (plain : ∀ m ∈ ms, ',' ∉ m.write)
    (reads : List.Forall₂ (fun m n => parse m.text = .ok n) ms ns) :
    parseList (String.ofList (writeList ms)) = .ok ns := by
  rw [parse_list_iff, String.toList_ofList]
  cases reads with
  | nil => exact .nil
  | @cons m n ms ns first others =>
    rw [split_write_list plain]
    have read : parseChars m.write = .ok n := by simpa [parse, text] using first
    have later : List.Forall₂ (fun part n => parseChars part = .ok n)
        (ms.map fun n => ' ' :: n.write) ns := by
      refine List.forall₂_map_left_iff.mpr (others.imp ?_)
      intro m n found
      exact (parse_behind_blank m.write n).mpr (by simpa [parse, text] using found)
    have parts : List.Forall₂ (fun part n => parseChars part = .ok n)
        (m.write :: ms.map fun n => ' ' :: n.write) (n :: ns) := .cons read later
    have solid : ∀ part ∈ m.write :: ms.map (fun n => ' ' :: n.write), allBlank part = false := by
      intro part among
      obtain ⟨n, _, found⟩ := exists_related parts.flip among
      exact not_blank_of_parse found
    rw [List.filter_eq_self.mpr fun part among => by simp [solid part among]]
    exact parts

/-- A list of media types that read back one by one reads back as a whole, in order and with
nothing lost or split, exactly when no value has a comma in it. -/
theorem read_list_back_iff {ms : List MediaType} (given : ∀ m ∈ ms, Obtainable m)
    (back : ∀ m ∈ ms, ∃ n, parse m.text = .ok n ∧ (n == m) = true) :
    (∃ ns, parseList (String.ofList (writeList ms)) = .ok ns ∧
        List.Forall₂ (fun n m => (n == m) = true) ns ms) ↔
      ∀ m ∈ ms, ∀ parameter ∈ m.parameters, ',' ∉ parameter.2 := by
  constructor
  · rintro ⟨ns, read, same⟩ m listed parameter known
    obtain ⟨n, among, equal⟩ := exists_related same listed
    have perm := ((beq_iff n m).mp equal).2.2
    exact no_comma_of_parse_list read n among parameter (perm.mem_iff.mpr known)
  · intro commaless
    have plain : ∀ m ∈ ms, ',' ∉ m.write := by
      intro m listed comma
      obtain ⟨parameter, known, inside⟩ := (comma_written_iff (given m listed).wellFormed).mp comma
      exact commaless m listed parameter known inside
    obtain ⟨ns, reads⟩ := (exists_related_iff ms).mpr back
    refine ⟨ns, parse_write_list plain (reads.imp fun _ _ found => found.1), ?_⟩
    exact (reads.imp fun _ _ found => found.2).flip

theorem titled_list_read_back :
    ∃ m n ns, m.parameters = [("title".toList, "a; b".toList)] ∧
      parseList (String.ofList (writeList [m, n])) = .ok ns ∧
      List.Forall₂ (fun n m => (n == m) = true) ns [m, n] := by
  let m : MediaType := ⟨"text".toList, "html".toList, [("title".toList, "a; b".toList)]⟩
  let n : MediaType := ⟨['*'], ['*'], [(['q'], "0.5".toList)]⟩
  have read : parse m.text = .ok m := by decide
  have readToo : parse n.text = .ok n := by decide
  have given : ∀ k ∈ [m, n], Obtainable k :=
    List.forall_mem_cons.mpr ⟨.parsed read, List.forall_mem_singleton.mpr (.parsed readToo)⟩
  have back : ∀ k ∈ [m, n], ∃ l, parse k.text = .ok l ∧ (l == k) = true :=
    List.forall_mem_cons.mpr
      ⟨⟨m, read, BEq.rfl⟩, List.forall_mem_singleton.mpr ⟨n, readToo, BEq.rfl⟩⟩
  obtain ⟨ns, found, same⟩ := (read_list_back_iff given back).mpr (by decide)
  exact ⟨m, n, ns, rfl, found, same⟩

/-- A comma between quotes splits a list. -/
theorem quoted_comma_splits :
    ¬ ∀ ms : List MediaType, (∀ m ∈ ms, Obtainable m) →
      (∀ m ∈ ms, ∃ n, parse m.text = .ok n ∧ (n == m) = true) →
        ∃ ns, parseList (String.ofList (writeList ms)) = .ok ns ∧
          List.Forall₂ (fun n m => (n == m) = true) ns ms := by
  intro readBack
  let m : MediaType := ⟨['a'], ['b'], [(['x'], "c,d".toList)]⟩
  have read : parse m.text = .ok m := by decide
  have given : ∀ k ∈ [m], Obtainable k := List.forall_mem_singleton.mpr (.parsed read)
  have back : ∀ k ∈ [m], ∃ n, parse k.text = .ok n ∧ (n == k) = true :=
    List.forall_mem_singleton.mpr ⟨m, read, BEq.rfl⟩
  obtain ⟨ns, found, _⟩ := readBack [m] given back
  have refused : parseList (String.ofList (writeList [m])) =
      .error (.flawed "a/b;x=\"c" (.parameterValue ['x'] ['"', 'c'])) := by decide
  rw [refused] at found
  cases found

end HandlerRouting.MediaType
