import HandlerRouting.Text.Quoted

/-!
Quoted text can be printed whatever it quotes: what is not printable itself is written with letters,
digits and backslashes.
-/

namespace HandlerRouting.Text

theorem printable_of_ascii {c : Char} (low : 0x20 ≤ c.toNat) (high : c.toNat < 0x7f) :
    isPrintable c = true := by
  have bounds : printableBounds = 0x20 :: 0x7f :: printableBounds.drop 2 := rfl
  rw [isPrintable, withinBounds, bounds, insideFrom, if_neg (by omega), insideFrom, if_pos high]
  rfl

theorem hex_digit_printable {value : Nat} (small : value < 16) :
    isPrintable (hexDigit value) = true := by
  have digits : ∀ digit < 16, 0x20 ≤ (hexDigit digit).toNat ∧ (hexDigit digit).toNat < 0x7f := by
    decide
  exact printable_of_ascii (digits value small).1 (digits value small).2

theorem hex_fixed_printable (width value : Nat) :
    ∀ c ∈ hexFixed width value, isPrintable c = true := by
  induction width generalizing value with
  | zero => simp [hexFixed]
  | succ width ih =>
    intro c member
    rcases List.mem_append.mp member with higher | last
    · exact ih _ c higher
    · rw [List.mem_singleton.mp last]
      exact hex_digit_printable (Nat.mod_lt value (by decide))

theorem backslashed_printable {behind : List Char}
    (plain : ∀ c ∈ behind, isPrintable c = true) :
    ∀ c ∈ '\\' :: behind, isPrintable c = true :=
  List.forall_mem_cons.mpr ⟨printable_of_ascii (by decide) (by decide), plain⟩

theorem numeric_escape_printable (code : Nat) :
    ∀ c ∈ numericEscape code, isPrintable c = true := by
  have escaped : ∀ letter, isPrintable letter = true → ∀ width,
      ∀ c ∈ '\\' :: letter :: hexFixed width code, isPrintable c = true := fun _ plain width =>
    backslashed_printable (List.forall_mem_cons.mpr ⟨plain, hex_fixed_printable width code⟩)
  unfold numericEscape
  split
  · exact escaped 'x' (printable_of_ascii (by decide) (by decide)) 2
  · split
    · exact escaped 'u' (printable_of_ascii (by decide) (by decide)) 4
    · exact escaped 'U' (printable_of_ascii (by decide) (by decide)) 8

theorem escape_char_printable {mark : Char} (plain : isPrintable mark = true) (c : Char) :
    ∀ d ∈ escapeChar mark c, isPrintable d = true := by
  have letter : ∀ code, 0x20 ≤ code.toNat → code.toNat < 0x7f →
      ∀ d ∈ ['\\', code], isPrintable d = true := fun code low high =>
    backslashed_printable (by simpa using printable_of_ascii low high)
  unfold escapeChar
  split
  · rename_i hidden
    rcases hidden with rfl | rfl
    · exact backslashed_printable (by simpa using plain)
    · exact letter '\\' (by decide) (by decide)
  · split
    · exact letter 'n' (by decide) (by decide)
    · split
      · exact letter 'r' (by decide) (by decide)
      · split
        · exact letter 't' (by decide) (by decide)
        · split
          · rename_i shown
            simpa using shown
          · exact numeric_escape_printable c.toNat

theorem quote_mark_printable (s : List Char) : isPrintable (quoteMark s) = true := by
  unfold quoteMark
  split <;> exact printable_of_ascii (by decide) (by decide)

theorem quote_chars_printable (s : List Char) : ∀ c ∈ quoteChars s, isPrintable c = true := by
  have mark := quote_mark_printable s
  refine List.forall_mem_cons.mpr ⟨mark, List.forall_mem_append.mpr ⟨?_, by simpa using mark⟩⟩
  intro c member
  obtain ⟨d, _, escaped⟩ := List.mem_flatMap.mp member
  exact escape_char_printable mark d c escaped

end HandlerRouting.Text
