import HandlerRouting.MediaType.Respelling
import HandlerRouting.Proofs.MediaType.Repetition
import HandlerRouting.Proofs.Text.LetterCase

/-!
Respelled texts. The case of letters does not change which names are written with which values, so
two spellings of a text write the same parameters. They may still settle them in different ways:
two writings of a name can become one, which then has one value and one place.
-/

namespace HandlerRouting.MediaType

open Text

section Letters
variable {a b : List Char}

theorem SameButCase.plain_name (same : SameButCase a b) : plainName a = plainName b := by
  rw [plainName, plainName, ← lower_to_lower (trim a), ← lower_to_lower (trim b),
    ← trim_to_lower a, ← trim_to_lower b, same]

theorem SameButCase.trimmed (same : SameButCase a b) : SameButCase (trim a) (trim b) := by
  rw [SameButCase, ← trim_to_lower, ← trim_to_lower, same]

theorem SameButCase.drop_blank (same : SameButCase a b) :
    SameButCase (a.dropWhile isBlank) (b.dropWhile isBlank) := by
  rw [SameButCase, ← drop_blank_to_lower, ← drop_blank_to_lower, same]

theorem SameButCase.nil_iff (same : SameButCase a b) : a = [] ↔ b = [] := by
  rw [← List.map_eq_nil_iff (f := Char.toLower), same, List.map_eq_nil_iff]

section Marks
variable {mark : Char} (caseless : mark ∈ caselessMarks)
include caseless

theorem SameButCase.mem_iff (same : SameButCase a b) : mark ∈ a ↔ mark ∈ b := by
  have either : ∀ s : List Char, mark ∈ s.map Char.toLower ↔ mark ∈ s := by
    intro s
    simp [to_lower_eq_mark_iff caseless]
  rw [← either a, same, either b]

theorem SameButCase.around_mark {front back other : List Char}
    (same : SameButCase (front ++ mark :: back) other) :
    ∃ before behind, other = before ++ mark :: behind ∧ SameButCase front before ∧
      SameButCase back behind := by
  have lowered : mark.toLower = mark := (to_lower_eq_mark_iff caseless mark).mpr rfl
  have parts : other.map Char.toLower =
      front.map Char.toLower ++ mark :: back.map Char.toLower := by
    rw [← same, List.map_append, List.map_cons, lowered]
  obtain ⟨before, rest, rfl, sameFront, sameRest⟩ := List.map_eq_append_iff.mp parts
  obtain ⟨c, behind, rfl, sameMark, sameBack⟩ := List.map_eq_cons_iff.mp sameRest
  obtain rfl := (to_lower_eq_mark_iff caseless c).mp sameMark
  exact ⟨before, behind, rfl, sameFront.symm, sameBack.symm⟩

end Marks

theorem equals_caseless : '=' ∈ caselessMarks := by decide

theorem slash_caseless : '/' ∈ caselessMarks := by decide

theorem star_caseless : '*' ∈ caselessMarks := by decide

end Letters

section Segments

theorem SpellsTypes.respell {first respelt type subtype : List Char}
    (spells : SpellsTypes first type subtype) (same : SameButCase first respelt) :
    SpellsTypes respelt type subtype := by
  have trimmed := same.trimmed
  cases spells with
  | all lone =>
    rw [lone] at trimmed
    have star : SameButCase ([] ++ '*' :: []) (trim respelt) := trimmed
    obtain ⟨before, behind, parts, front, back⟩ := star.around_mark star_caseless
    rw [front.nil_iff.mp rfl, back.nil_iff.mp rfl] at parts
    exact .all parts
  | @pair type subtype parts first more typeToken subtypeToken wildcards =>
    rw [parts] at trimmed
    obtain ⟨typeOther, subtypeOther, partsOther, sameType, sameSubtype⟩ :=
      trimmed.around_mark slash_caseless
    have plainType : lower (trim type) = lower (trim typeOther) := sameType.plain_name
    have plainSubtype : lower (trim subtype) = lower (trim subtypeOther) := sameSubtype.plain_name
    rw [plainType] at typeToken wildcards ⊢
    rw [plainSubtype] at subtypeToken wildcards ⊢
    exact .pair partsOther (mt (sameType.mem_iff slash_caseless).mpr first)
      (mt sameSubtype.nil_iff.mpr more) typeToken subtypeToken wildcards

def SameName (a b : List Char) : Prop := plainName a = plainName b

def Corresponds (matched : List Char → List Char → Prop) (pair other : List Char × List Char) :
    Prop := matched pair.1 other.1 ∧ pair.2 = other.2

theorem trim_named (name value : List Char) :
    trim (name ++ '=' :: value) = name.dropWhile isBlank ++ '=' :: trimEnd value := by
  have solid : isBlank '=' = false := by decide
  have front : (name ++ '=' :: value).dropWhile isBlank =
      name.dropWhile isBlank ++ '=' :: value := by
    rw [List.dropWhile_append]
    split
    · rename_i blank
      rw [List.isEmpty_iff.mp blank, List.dropWhile_cons_of_neg (by simp [solid])]
      rfl
    · rfl
  rw [trim, front, trim_end_append_cons solid]

theorem Writes.respell {segments respelt : List (List Char)}
    {pairs : List (List Char × List Char)} (writes : Writes segments pairs)
    (respelled : List.Forall₂ RespelledSegment segments respelt) :
    ∃ others, Writes respelt others ∧ List.Forall₂ (Corresponds SameName) pairs others := by
  induction respelled generalizing pairs with
  | nil =>
    cases writes
    exact ⟨[], .none, .nil⟩
  | @cons segment _ _ _ first _ ih =>
    cases writes with
    | blank empty others =>
      obtain ⟨kept, written, each⟩ := ih others
      cases first with
      | named value _ _ => simp [trim_named] at empty
      | unnamed _ same => exact ⟨kept, .blank (same.trimmed.nil_iff.mp empty) written, each⟩
    | @pair _ name value _ _ parts nameFirst others =>
      obtain ⟨kept, written, each⟩ := ih others
      cases first with
      | @named whole other behind absent same =>
        have inName : ∀ s : List Char, '=' ∉ s → '=' ∉ s.dropWhile isBlank := fun s absent =>
          mt ((List.dropWhile_sublist isBlank).subset ·) absent
        have absentOther : '=' ∉ other := mt (same.mem_iff equals_caseless).mpr absent
        -- Trimming leaves the first equals sign in its place; the names are those of the segments.
        rw [trim_named] at parts
        have split := (split_parameter_iff ..).mpr ⟨parts, nameFirst⟩
        rw [(split_parameter_iff ..).mpr ⟨rfl, inName _ absent⟩] at split
        cases split
        exact ⟨_, .pair (trim_named other behind) (inName _ absentOther) written,
          .cons ⟨same.drop_blank.plain_name, rfl⟩ each⟩
      | unnamed noValue _ =>
        have kept := count_trim (d := '=') (by decide) segment
        rw [List.count_eq_zero.mpr noValue, parts] at kept
        simp at kept

theorem RespelledSegment.symm {segment other : List Char}
    (respelled : RespelledSegment segment other) : RespelledSegment other segment := by
  cases respelled with
  | named value first same =>
    exact .named value (mt (same.mem_iff equals_caseless).mpr first) (Eq.symm same)
  | unnamed noValue same =>
    exact .unnamed (mt (same.mem_iff equals_caseless).mpr noValue) (Eq.symm same)

theorem Respelled.symm {s t : List Char} (respelled : Respelled s t) : Respelled t s := by
  obtain ⟨divides, dividesOther, types, parameters⟩ := respelled
  refine ⟨dividesOther, divides, Eq.symm types, ?_⟩
  exact List.Forall₂.flip (parameters.imp fun _ _ => RespelledSegment.symm)

theorem Written.respell {s t type subtype : List Char} {pairs : List (List Char × List Char)}
    (written : Written s type subtype pairs) (respelled : Respelled s t) :
    ∃ others, Written t type subtype others ∧ List.Forall₂ (Corresponds SameName) pairs others := by
  obtain ⟨divides, dividesOther, sameTypes, parameters⟩ := respelled
  obtain ⟨types, writes⟩ := (written_iff ..).mp written
  rw [(divides_iff ..).mp divides] at types writes
  obtain ⟨others, written, each⟩ := writes.respell parameters
  exact ⟨others, .mk dividesOther (types.respell sameTypes) written, each⟩

theorem Respelled.written_or {s t : String} (respelled : Respelled s.toList t.toList) :
    (∃ type subtype pairs others, Written s.toList type subtype pairs ∧
      Written t.toList type subtype others ∧ List.Forall₂ (Corresponds SameName) pairs others) ∨
    ∀ m, parse s ≠ .ok m ∧ parse t ≠ .ok m := by
  by_cases written : ∃ type subtype pairs, Written s.toList type subtype pairs
  · obtain ⟨type, subtype, pairs, written⟩ := written
    obtain ⟨others, writtenOther, each⟩ := written.respell respelled
    exact Or.inl ⟨type, subtype, pairs, others, written, writtenOther, each⟩
  · refine Or.inr fun m => ⟨fun read => ?_, fun read => ?_⟩
    · obtain ⟨pairs, _, own, _⟩ := (parse_written_iff ..).mp read
      exact written ⟨_, _, pairs, own⟩
    · obtain ⟨others, _, own, _⟩ := (parse_written_iff ..).mp read
      obtain ⟨pairs, back, _⟩ := own.respell respelled.symm
      exact written ⟨_, _, pairs, back⟩

end Segments

section Pairs
variable {pairs others given kept : List (List Char × List Char)}

theorem names_of_same (each : List.Forall₂ (Corresponds SameName) pairs others) (name : List Char) :
    (∃ pair ∈ pairs, plainName pair.1 = name) ↔ ∃ other ∈ others, plainName other.1 = name := by
  induction each with
  | nil => simp
  | @cons pair other _ _ same _ ih =>
    have own : plainName pair.1 = plainName other.1 := same.1
    simp only [List.exists_mem_cons_iff, ih, own]

theorem Gives.of_same {pair other parameter : List Char × List Char}
    (same : Corresponds SameName pair other) (gives : Gives pair parameter) :
    Gives other parameter := by
  obtain ⟨writing, value⟩ := other
  obtain ⟨name, rfl⟩ : plainName pair.1 = plainName writing ∧ pair.2 = value := same
  cases gives with
  | mk token means admits =>
    dsimp only at name
    rw [name] at token admits ⊢
    exact .mk token means admits

theorem given_of_same (each : List.Forall₂ (Corresponds SameName) pairs others)
    (gives : List.Forall₂ Gives pairs given) : List.Forall₂ Gives others given := by
  induction each generalizing given with
  | nil => exact gives
  | cons same _ ih =>
    cases gives with
    | cons first rest => exact .cons (first.of_same same) (ih rest)

theorem SettledAlike.symm (alike : SettledAlike pairs others) : SettledAlike others pairs := by
  constructor
  case verdict => exact alike.verdict.symm
  case values =>
    intro readable other pair name kept value prevailsOther prevails givesOther gives
    exact (alike.values (alike.verdict.mpr readable) pair other name value kept prevails
      prevailsOther gives givesOther).symm

theorem SettledAlike.mem_kept (alike : SettledAlike pairs others)
    (each : List.Forall₂ (Corresponds SameName) pairs others)
    (gives : List.Forall₂ Gives (Entries.ofPairs pairs) given)
    (givesOther : List.Forall₂ Gives (Entries.ofPairs others) kept)
    {parameter : List Char × List Char} (member : parameter ∈ Entries.ofPairs given) :
    parameter ∈ Entries.ofPairs kept := by
  have named : parameter.1 ∈ Entries.keys (Entries.ofPairs kept) := by
    rw [mem_keys_given_iff givesOther, ← names_of_same each, ← mem_keys_given_iff gives]
    exact List.mem_map_of_mem member
  obtain ⟨⟨name, value⟩, known, same⟩ := List.mem_map.mp named
  obtain ⟨other, prevailsOther, madeOther⟩ := (mem_given_iff givesOther _).mp known
  obtain ⟨pair, prevails, made⟩ := (mem_given_iff gives _).mp member
  have readable := (readable_iff pairs).mpr ⟨given, gives⟩
  obtain ⟨_, first⟩ := parameter
  dsimp only at same
  subst same
  rw [alike.values readable pair other name first value prevails prevailsOther made madeOther]
  exact known

theorem corresponds_symm (each : List.Forall₂ (Corresponds SameName) pairs others) :
    List.Forall₂ (Corresponds SameName) others pairs :=
  List.Forall₂.flip (each.imp fun _ _ same => ⟨same.1.symm, same.2.symm⟩)

section OneToOne
variable {matched : List Char → List Char → Prop}
  (oneToOne : ∀ {a b c d}, matched a b → matched c d → (a = c ↔ b = d))
include oneToOne

theorem assign_corresponds {pair other : List Char × List Char}
    (same : Corresponds matched pair other)
    (each : List.Forall₂ (Corresponds matched) pairs others) :
    List.Forall₂ (Corresponds matched) (Entries.assign pair.1 pair.2 pairs)
      (Entries.assign other.1 other.2 others) := by
  induction each with
  | nil => exact .cons same .nil
  | cons first rest ih =>
    simp only [Entries.assign, beq_iff_eq, oneToOne first.1 same.1]
    split
    · exact .cons ⟨first.1, same.2⟩ rest
    · exact .cons first ih

/-- Assigning pairs whose names are matched one to one keeps pairs whose names are. -/
theorem assign_all_corresponds (each : List.Forall₂ (Corresponds matched) pairs others)
    (present : List.Forall₂ (Corresponds matched) given kept) :
    List.Forall₂ (Corresponds matched) (Entries.assignAll pairs given)
      (Entries.assignAll others kept) := by
  induction each generalizing given kept with
  | nil => exact present
  | cons first _ ih => exact ih (assign_corresponds oneToOne first present)

end OneToOne

def MatchedIn (pairs others : List (List Char × List Char)) (a b : List Char) : Prop :=
  SameName a b ∧ ∃ place ∈ pairs.zip others, place.1.1 = a ∧ place.2.1 = b

theorem settled_of_repeat (each : List.Forall₂ (Corresponds SameName) pairs others)
    (repeated : RepeatAlike pairs others) :
    List.Forall₂ (Corresponds SameName) (Entries.ofPairs pairs) (Entries.ofPairs others) := by
  have oneToOne : ∀ {a b c d}, MatchedIn pairs others a b → MatchedIn pairs others c d →
      (a = c ↔ b = d) := by
    rintro _ _ _ _ ⟨_, place, member, rfl, rfl⟩ ⟨_, other, memberOther, rfl, rfl⟩
    exact repeated place member other memberOther
  have places : List.Forall₂ (Corresponds (MatchedIn pairs others)) pairs others := by
    rw [List.forall₂_iff_zip] at each ⊢
    refine ⟨each.1, fun {pair other} member => ?_⟩
    have same := each.2 member
    exact ⟨⟨same.1, (pair, other), member, rfl, rfl⟩, same.2⟩
  exact (assign_all_corresponds oneToOne places .nil).imp fun _ _ same => ⟨same.1.1, same.2⟩

end Pairs

section Readings

theorem ReadAlike.ok_iff {read other : Except Refusal MediaType} (alike : ReadAlike read other) :
    (∃ m, read = .ok m) ↔ ∃ n, other = .ok n := by
  cases alike <;> simp

theorem refused_alike {read other : Except Refusal MediaType} (refused : ∀ m, read ≠ .ok m)
    (refusedOther : ∀ m, other ≠ .ok m) : ReadAlike read other := by
  cases read with
  | ok m => exact absurd rfl (refused m)
  | error =>
    cases other with
    | ok m => exact absurd rfl (refusedOther m)
    | error => exact .refused

variable {s t : String} {type subtype : List Char} {pairs others : List (List Char × List Char)}

theorem settled_of_read_alike (written : Written s.toList type subtype pairs)
    (writtenOther : Written t.toList type subtype others)
    (alike : ReadAlike (parse s) (parse t)) : SettledAlike pairs others := by
  constructor
  case verdict =>
    rw [← parse_readable_iff written, ← parse_readable_iff writtenOther, alike.ok_iff]
  case values =>
    intro readable pair other name value kept prevails prevailsOther gives givesOther
    obtain ⟨m, read⟩ := (parse_readable_iff written).mpr readable
    obtain ⟨n, readOther⟩ := alike.ok_iff.mp ⟨m, read⟩
    rw [read, readOther] at alike
    obtain ⟨_, _, given, each, parameters⟩ := (parse_of_written written m).mp read
    obtain ⟨_, _, givenOther, eachOther, parametersOther⟩ :=
      (parse_of_written writtenOther n).mp readOther
    cases alike with
    | read same =>
      have order := ((beq_iff m n).mp same).2.2
      have member := (mem_given_iff each (name, value)).mpr ⟨pair, prevails, gives⟩
      have known := (mem_given_iff eachOther (name, kept)).mpr ⟨other, prevailsOther, givesOther⟩
      rw [← parametersOther, ← order.mem_iff, parameters] at known
      exact congrArg Prod.snd (Entries.eq_of_key (Entries.of_pairs_nodup given) member known rfl)

theorem read_alike_of_settled (written : Written s.toList type subtype pairs)
    (writtenOther : Written t.toList type subtype others)
    (each : List.Forall₂ (Corresponds SameName) pairs others) (alike : SettledAlike pairs others) :
    ReadAlike (parse s) (parse t) := by
  by_cases readable : Readable pairs
  · obtain ⟨given, gives⟩ := (readable_iff pairs).mp readable
    obtain ⟨kept, givesOther⟩ := (readable_iff others).mp (alike.verdict.mp readable)
    have read := (parse_of_written written ⟨type, subtype, Entries.ofPairs given⟩).mpr
      ⟨rfl, rfl, given, gives, rfl⟩
    have readOther := (parse_of_written writtenOther ⟨type, subtype, Entries.ofPairs kept⟩).mpr
      ⟨rfl, rfl, kept, givesOther, rfl⟩
    have nodup : ∀ given : List (List Char × List Char), (Entries.ofPairs given).Nodup :=
      fun given => List.Nodup.of_map _ (Entries.of_pairs_nodup given)
    have eachOther := corresponds_symm each
    have order : (Entries.ofPairs given).Perm (Entries.ofPairs kept) :=
      (List.perm_ext_iff_of_nodup (nodup given) (nodup kept)).mpr fun parameter =>
        ⟨alike.mem_kept each gives givesOther, alike.symm.mem_kept eachOther givesOther gives⟩
    rw [read, readOther]
    exact .read ((beq_iff _ _).mpr ⟨rfl, rfl, order⟩)
  · have unreadable := mt alike.verdict.mpr readable
    exact refused_alike (fun m read => readable ((parse_readable_iff written).mp ⟨m, read⟩))
      fun m read => unreadable ((parse_readable_iff writtenOther).mp ⟨m, read⟩)

/-- Two texts that differ in the case of types and parameter names are read alike exactly when they
settle their repeated names alike; and they are read as one where the same writings are repeated. -/
theorem read_alike_iff {s t : String} (respelled : Respelled s.toList t.toList) :
    (ReadAlike (parse s) (parse t) ↔ ∀ type subtype pairs others,
      Written s.toList type subtype pairs → Written t.toList type subtype others →
        SettledAlike pairs others) ∧
    ((∀ type subtype pairs others, Written s.toList type subtype pairs →
      Written t.toList type subtype others → RepeatAlike pairs others) →
        ∀ m, parse s = .ok m ↔ parse t = .ok m) := by
  rcases respelled.written_or with
    ⟨type, subtype, pairs, others, written, writtenOther, each⟩ | refused
  · constructor
    · constructor
      · intro alike _ _ _ _ own ownOther
        exact settled_of_read_alike own ownOther alike
      · intro settled
        exact read_alike_of_settled written writtenOther each
          (settled type subtype pairs others written writtenOther)
    · intro repeated m
      have settled :=
        settled_of_repeat each (repeated type subtype pairs others written writtenOther)
      have same : ∀ given, List.Forall₂ Gives (Entries.ofPairs pairs) given ↔
          List.Forall₂ Gives (Entries.ofPairs others) given :=
        fun given => ⟨given_of_same settled, given_of_same (corresponds_symm settled)⟩
      simp only [parse_of_written written, parse_of_written writtenOther, same]
  · constructor
    · constructor
      · intro alike _ _ _ _ own ownOther
        exact settled_of_read_alike own ownOther alike
      · intro _
        exact refused_alike (fun m => (refused m).1) fun m => (refused m).2
    · intro _ m
      exact iff_of_false (refused m).1 (refused m).2

theorem swapped_case_read_alike :
    Respelled "a/b;x=1;X =2;x=3".toList "A/B;X=1;x =2;X=3".toList ∧
      ∀ m, parse "a/b;x=1;X =2;x=3" = .ok m ↔ parse "A/B;X=1;x =2;X=3" = .ok m := by
  have divides : Divides "a/b;x=1;X =2;x=3".toList ['a', '/', 'b']
      [['x', '=', '1'], ['X', ' ', '=', '2'], ['x', '=', '3']] :=
    (divides_iff ..).mpr (by decide)
  have dividesOther : Divides "A/B;X=1;x =2;X=3".toList ['A', '/', 'B']
      [['X', '=', '1'], ['x', ' ', '=', '2'], ['X', '=', '3']] :=
    (divides_iff ..).mpr (by decide)
  have types : SpellsTypes ['a', '/', 'b'] ['a'] ['b'] :=
    (spells_types_iff "" ..).mpr ⟨['a'], ['b'], by decide⟩
  have written : Written "a/b;x=1;X =2;x=3".toList ['a'] ['b']
      [(['x'], ['1']), (['X', ' '], ['2']), (['x'], ['3'])] :=
    .mk divides types (.pair rfl (by decide) (.pair rfl (by decide) (.pair rfl (by decide) .none)))
  have writtenOther : Written "A/B;X=1;x =2;X=3".toList ['a'] ['b']
      [(['X'], ['1']), (['x', ' '], ['2']), (['X'], ['3'])] :=
    .mk dividesOther (types.respell rfl)
      (.pair rfl (by decide) (.pair rfl (by decide) (.pair rfl (by decide) .none)))
  have respelled : Respelled "a/b;x=1;X =2;x=3".toList "A/B;X=1;x =2;X=3".toList :=
    .mk divides dividesOther rfl (.cons (@RespelledSegment.named ['x'] ['X'] ['1'] (by decide) rfl)
      (.cons (@RespelledSegment.named ['X', ' '] ['x', ' '] ['2'] (by decide) rfl)
        (.cons (@RespelledSegment.named ['x'] ['X'] ['3'] (by decide) rfl) .nil)))
  refine ⟨respelled, (read_alike_iff respelled).2 ?_⟩
  intro type subtype pairs others own ownOther
  obtain ⟨_, _, rfl⟩ := written.unique own
  obtain ⟨_, _, rfl⟩ := writtenOther.unique ownOther
  unfold RepeatAlike
  decide

/-- Where capitals make two writings of a name one, another of its values is kept, or one that is no
number is left out. -/
theorem capitals_change_reading :
    (Respelled "a/b;x=1;X=2;x=3".toList "a/b;x=1;x=2;x=3".toList ∧
      ¬ ReadAlike (parse "a/b;x=1;X=2;x=3") (parse "a/b;x=1;x=2;x=3")) ∧
    Respelled "a/b;q=x;q=1".toList "a/b;q=x;Q=1".toList ∧
      ¬ ReadAlike (parse "a/b;q=x;q=1") (parse "a/b;q=x;Q=1") := by
  have mixed : Respelled "a/b;x=1;X=2;x=3".toList "a/b;x=1;x=2;x=3".toList :=
    .mk ((divides_iff _ ['a', '/', 'b'] [['x', '=', '1'], ['X', '=', '2'], ['x', '=', '3']]).mpr
        (by decide))
      ((divides_iff _ ['a', '/', 'b'] [['x', '=', '1'], ['x', '=', '2'], ['x', '=', '3']]).mpr
        (by decide))
      rfl
      (.cons (@RespelledSegment.named ['x'] ['x'] ['1'] (by decide) rfl)
        (.cons (@RespelledSegment.named ['X'] ['x'] ['2'] (by decide) rfl)
          (.cons (@RespelledSegment.named ['x'] ['x'] ['3'] (by decide) rfl) .nil)))
  have quality : Respelled "a/b;q=x;q=1".toList "a/b;q=x;Q=1".toList :=
    .mk ((divides_iff _ ['a', '/', 'b'] [['q', '=', 'x'], ['q', '=', '1']]).mpr (by decide))
      ((divides_iff _ ['a', '/', 'b'] [['q', '=', 'x'], ['Q', '=', '1']]).mpr (by decide))
      rfl (.cons (@RespelledSegment.named ['q'] ['q'] ['x'] (by decide) rfl)
        (.cons (@RespelledSegment.named ['q'] ['Q'] ['1'] (by decide) rfl) .nil))
  have second : parse "a/b;x=1;X=2;x=3" = .ok ⟨['a'], ['b'], [(['x'], ['2'])]⟩ := by decide
  have third : parse "a/b;x=1;x=2;x=3" = .ok ⟨['a'], ['b'], [(['x'], ['3'])]⟩ := by decide
  have number : parse "a/b;q=x;q=1" = .ok ⟨['a'], ['b'], [(['q'], ['1'])]⟩ := by decide
  have noNumber : parse "a/b;q=x;Q=1" =
      .error (.flawed "a/b;q=x;Q=1" (.notNumber ['x'])) := by decide
  refine ⟨⟨mixed, fun alike => ?_⟩, quality, fun alike => ?_⟩
  · rw [second, third] at alike
    cases alike with
    | read same => exact absurd same (by decide)
  · rw [number, noNumber] at alike
    cases alike

end Readings

end HandlerRouting.MediaType
