import HandlerRouting.MediaType.Grammar
import HandlerRouting.MediaType.Obtainable
import HandlerRouting.Proofs.Related
import HandlerRouting.Proofs.Text.LowerCase
import HandlerRouting.Proofs.Text.Trimming

/-!
The reading of one parameter against the grammar, and the reading of many as so many assignments.
-/

namespace HandlerRouting

namespace MediaType

open Text

theorem take_to_mark {mark : Char} {front : List Char} (absent : mark ∉ front) (back : List Char) :
    (front ++ mark :: back).takeWhile (· ≠ mark) = front := by
  rw [List.takeWhile_append_of_pos fun c member => by
    simpa using fun same : c = mark => absent (same ▸ member)]
  simp

theorem drop_to_mark {mark : Char} {front : List Char} (absent : mark ∉ front) (back : List Char) :
    (front ++ mark :: back).dropWhile (· ≠ mark) = mark :: back := by
  rw [List.dropWhile_append_of_pos fun c member => by
    simpa using fun same : c = mark => absent (same ▸ member)]
  simp

theorem eq_around_mark {mark c : Char} {s back : List Char}
    (left : s.dropWhile (· ≠ mark) = c :: back) :
    s = s.takeWhile (· ≠ mark) ++ mark :: back ∧ mark ∉ s.takeWhile (· ≠ mark) := by
  have found : c = mark := by
    have stops := List.head?_dropWhile_not (fun d : Char => decide (d ≠ mark)) s
    rw [left] at stops
    simpa using stops
  subst found
  constructor
  · rw [← left, List.takeWhile_append_dropWhile]
  · intro member
    simpa using List.all_eq_true.mp List.all_takeWhile c member

theorem split_parameter_iff (segment name value : List Char) :
    splitParameter? segment = some (name, value) ↔ segment = name ++ '=' :: value ∧ '=' ∉ name := by
  constructor
  · intro found
    unfold splitParameter? at found
    split at found
    · cases found
    · rename_i left
      cases found
      exact eq_around_mark left
  · rintro ⟨rfl, absent⟩
    rw [splitParameter?, drop_to_mark absent, take_to_mark absent]

theorem admit_value_iff (name value kept : List Char) :
    admitValue name value = .ok kept ↔ Admits name value kept := by
  constructor
  · intro admitted
    unfold admitValue at admitted
    split at admitted
    · rename_i charset
      subst charset
      split at admitted
      · cases admitted
      · rename_i readable
        split at admitted
        · rename_i known
          cases admitted
          exact .charset (by simpa using readable) known
        · cases admitted
    · rename_i notCharset
      split at admitted
      · rename_i quality
        subst quality
        split at admitted
        · cases admitted
        · rename_i numeral read
          split at admitted
          · cases admitted
          · rename_i x number
            split at admitted
            · rename_i range
              cases admitted
              exact .quality read number range
            · cases admitted
      · rename_i notQuality
        cases admitted
        exact .other notCharset notQuality
  · intro admits
    cases admits with
    | charset readable known => simp [admitValue, readable, known]
    | quality read number range =>
      have notCharset : qualityName ≠ charsetName := by decide
      simp [admitValue, notCharset, read, number, range]
    | other notCharset notQuality => simp [admitValue, notCharset, notQuality]

theorem read_parameter_iff (text : String) (name value key kept : List Char) :
    readParameter text name value = .ok (key, kept) ↔
      lower (trim name) = key ∧ isToken key = true ∧
        ∃ meant, Means (trim value) meant ∧ Admits key meant kept := by
  constructor
  · intro read
    simp only [readParameter] at read
    split at read
    · cases read
    · rename_i token
      split at read
      · cases read
      · rename_i meant means
        split at read
        · rename_i kept admitted
          cases read
          exact ⟨rfl, by simpa using token, meant, (read_value_iff _ _).mp means,
            (admit_value_iff _ _ _).mp admitted⟩
        · cases read
  · rintro ⟨rfl, token, meant, means, admits⟩
    unfold readParameter
    simp only [token, Bool.not_true, Bool.false_eq_true, ↓reduceIte,
      (read_value_iff _ _).mpr means, (admit_value_iff _ _ _).mpr admits]

theorem collect_parameters_iff (text : String) (collected gathered : List (List Char × List Char))
    (parts : List (List Char)) :
    collectParameters text collected parts = .ok gathered ↔
      ∃ pairs, List.Forall₂ (fun part pair => splitParameter? (trim part) = some pair)
        (parts.filter fun part => !(trim part).isEmpty) pairs ∧
        gathered = Entries.assignAll pairs collected := by
  induction parts generalizing collected with
  | nil =>
    simp only [collectParameters, Except.ok.injEq, List.filter_nil, List.forall₂_nil_left_iff,
      exists_eq_left]
    exact eq_comm
  | cons part rest ih =>
    rw [collectParameters]
    by_cases blank : (trim part).isEmpty = true
    · rw [List.filter_cons_of_neg (by simp [blank]), if_pos blank]
      exact ih collected
    · rw [List.filter_cons_of_pos (by simp [blank]), if_neg blank]
      simp only [List.forall₂_cons_left_iff]
      constructor
      · intro done
        split at done
        · cases done
        · rename_i name value split
          obtain ⟨pairs, each, rfl⟩ := (ih _).mp done
          exact ⟨(name, value) :: pairs, ⟨_, pairs, split, each, rfl⟩, rfl⟩
      · rintro ⟨_, ⟨⟨name, value⟩, pairs, split, each, rfl⟩, rfl⟩
        rw [split]
        exact (ih _).mpr ⟨pairs, each, rfl⟩

theorem read_parameters_iff (text : String) (read given kept : List (List Char × List Char)) :
    readParameters text read given = .ok kept ↔
      ∃ parameters, List.Forall₂
        (fun pair parameter => readParameter text pair.1 pair.2 = .ok parameter) given parameters ∧
        kept = Entries.assignAll parameters read := by
  induction given generalizing read with
  | nil =>
    simp only [readParameters, Except.ok.injEq, List.forall₂_nil_left_iff, exists_eq_left]
    exact eq_comm
  | cons pair rest ih =>
    simp only [readParameters, List.forall₂_cons_left_iff]
    constructor
    · intro done
      split at done
      · rename_i key value found
        obtain ⟨parameters, each, rfl⟩ := (ih _).mp done
        exact ⟨(key, value) :: parameters, ⟨_, parameters, found, each, rfl⟩, rfl⟩
      · cases done
    · rintro ⟨_, ⟨⟨key, value⟩, parameters, found, each, rfl⟩, rfl⟩
      rw [found]
      exact (ih _).mpr ⟨parameters, each, rfl⟩

end MediaType

end HandlerRouting
