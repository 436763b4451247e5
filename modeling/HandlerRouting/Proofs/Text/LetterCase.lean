import HandlerRouting.Proofs.Text.LowerCase
import HandlerRouting.Text.Blank

/-!
The case of ASCII letters is lost when a text is trimmed and put into lower case. No blank and no
mark of the grammar is such a letter, and where a word ends does not depend on its capitals.
-/

namespace HandlerRouting.Text

def caselessMarks : List Char := ['=', '/', '*', 'Σ']

structure SameButCapital (c d : Char) : Prop where
  blank : isBlank c = isBlank d
  cased : isCased c = isCased d
  ignorable : isCaseIgnorable c = isCaseIgnorable d
  marks : caselessMarks.all (fun mark => (c == mark) == (d == mark)) = true

instance (c d : Char) : Decidable (SameButCapital c d) :=
  decidable_of_iff
    (isBlank c = isBlank d ∧ isCased c = isCased d ∧ isCaseIgnorable c = isCaseIgnorable d ∧
      caselessMarks.all (fun mark => (c == mark) == (d == mark)) = true)
    ⟨fun ⟨blank, cased, ignorable, marks⟩ => ⟨blank, cased, ignorable, marks⟩,
      fun ⟨blank, cased, ignorable, marks⟩ => ⟨blank, cased, ignorable, marks⟩⟩

theorem capitals_same : ∀ place < 26,
    SameButCapital (Char.ofNat (0x41 + place)).toLower (Char.ofNat (0x41 + place)) := by
  decide

theorem same_but_capital (c : Char) : SameButCapital c.toLower c := by
  cases capital : c.isUpper with
  | false =>
    rw [to_lower_of_not_upper capital]
    exact ⟨rfl, rfl, rfl, by simp⟩
  | true =>
    have between : c.val ≥ 'A'.val ∧ c.val ≤ 'Z'.val := of_decide_eq_true capital
    have bounds : 0x41 ≤ c.toNat ∧ c.toNat ≤ 0x5a :=
      ⟨UInt32.le_iff_toNat_le.mp between.1, UInt32.le_iff_toNat_le.mp between.2⟩
    have holds := capitals_same (c.toNat - 0x41) (by omega)
    rwa [Nat.add_sub_cancel' bounds.1, Char.ofNat_toNat] at holds

theorem to_lower_eq_mark_iff {mark : Char} (caseless : mark ∈ caselessMarks) (c : Char) :
    c.toLower = mark ↔ c = mark := by
  have same := List.all_eq_true.mp (same_but_capital c).marks mark caseless
  rw [← beq_iff_eq, eq_of_beq same, beq_iff_eq]

theorem lower_char_to_lower (c : Char) : lowerChar c.toLower = lowerChar c := by
  by_cases ascii : c.toNat < 0x80
  · have form := lower_char_ascii ascii
    rcases ascii_forms ascii with own | ⟨_, _, lowered⟩
    · have same : c.toLower = c := List.singleton_inj.mp (form.symm.trans own)
      rw [same]
    · exact Eq.trans lowered form.symm
  -- Beyond ASCII nothing is changed.
  · have behind : 'Z'.toNat < c.toNat := by
      show 0x5a < c.toNat
      omega
    rw [to_lower_behind behind]

theorem drop_while_to_lower {p : Char → Bool} (either : ∀ c, p c.toLower = p c) (s : List Char) :
    (s.map Char.toLower).dropWhile p = (s.dropWhile p).map Char.toLower := by
  have same : p ∘ Char.toLower = p := funext either
  rw [List.dropWhile_map, same]

theorem drop_blank_to_lower (s : List Char) :
    (s.map Char.toLower).dropWhile isBlank = (s.dropWhile isBlank).map Char.toLower :=
  drop_while_to_lower (fun c => (same_but_capital c).blank) s

theorem trim_to_lower (s : List Char) : trim (s.map Char.toLower) = (trim s).map Char.toLower := by
  simp only [trim, trimEnd, drop_blank_to_lower, ← List.map_reverse]

theorem meets_cased_to_lower (s : List Char) :
    meetsCased (s.map Char.toLower) = meetsCased s := by
  unfold meetsCased
  rw [drop_while_to_lower fun c => (same_but_capital c).ignorable]
  cases s.dropWhile isCaseIgnorable with
  | nil => rfl
  | cons c rest => exact (same_but_capital c).cased

theorem lower_after_to_lower (before s : List Char) :
    lowerAfter (before.map Char.toLower) (s.map Char.toLower) = lowerAfter before s := by
  induction s generalizing before with
  | nil => rfl
  | cons c rest ih =>
    have sigma := to_lower_eq_mark_iff (by decide : 'Σ' ∈ caselessMarks) c
    have form : sigmaForm (before.map Char.toLower) (rest.map Char.toLower) =
        sigmaForm before rest := by
      simp only [sigmaForm, meets_cased_to_lower]
    simp only [List.map_cons, lowerAfter, sigma, form, lower_char_to_lower, ← ih (c :: before)]

theorem lower_to_lower (s : List Char) : lower (s.map Char.toLower) = lower s :=
  lower_after_to_lower [] s

end HandlerRouting.Text
