import HandlerRouting.Text.Blank
import HandlerRouting.Text.Token

/-!
Trimming takes nothing but blanks, and nothing from a text whose ends are not blank, such as a
token.
-/

namespace HandlerRouting.Text

theorem count_drop_blank {d : Char} (solid : isBlank d = false) (s : List Char) :
    (s.dropWhile isBlank).count d = s.count d := by
  induction s with
  | nil => rfl
  | cons c rest ih =>
    by_cases blank : isBlank c = true
    · have other : (c == d) = false := beq_false_of_ne fun same => by simp [same, solid] at blank
      simp [blank, ih, List.count_cons, other]
    · simp [blank]

theorem count_trim_end {d : Char} (solid : isBlank d = false) (s : List Char) :
    (trimEnd s).count d = s.count d := by
  rw [trimEnd, List.count_reverse, count_drop_blank solid, List.count_reverse]

theorem count_trim {d : Char} (solid : isBlank d = false) (s : List Char) :
    (trim s).count d = s.count d := by
  rw [trim, count_trim_end solid, count_drop_blank solid]

theorem trim_end_append_cons {c : Char} (solid : isBlank c = false) (front back : List Char) :
    trimEnd (front ++ c :: back) = front ++ c :: trimEnd back := by
  have reversed : (front ++ c :: back).reverse = back.reverse ++ (c :: front.reverse) := by simp
  unfold trimEnd
  rw [reversed, List.dropWhile_append]
  split
  · rename_i allBlank
    simp [List.isEmpty_iff.mp allBlank, solid]
  · simp

theorem trim_cons {c : Char} (solid : isBlank c = false) (rest : List Char) :
    trim (c :: rest) = c :: trimEnd rest := by
  rw [trim, List.dropWhile_cons_of_neg (by simp [solid])]
  exact trim_end_append_cons solid [] rest

theorem drop_blank_of_solid {s : List Char} (solid : ∀ c ∈ s, isBlank c = false) :
    s.dropWhile isBlank = s := by
  cases s with
  | nil => rfl
  | cons c rest => exact List.dropWhile_cons_of_neg (by simp [solid c])

theorem trim_end_of_solid {s : List Char} (solid : ∀ c ∈ s, isBlank c = false) : trimEnd s = s := by
  rw [trimEnd, drop_blank_of_solid (by simpa using solid), List.reverse_reverse]

theorem trim_of_solid {s : List Char} (solid : ∀ c ∈ s, isBlank c = false) : trim s = s := by
  rw [trim, drop_blank_of_solid solid, trim_end_of_solid solid]

theorem token_char_ascii {c : Char} (token : isTokenChar c = true) : c.toNat < 0x80 := by
  simp only [isTokenChar, Bool.or_eq_true] at token
  rcases token with alphanumeric | mark
  · change (decide _ || (decide _ && decide _) || (decide _ && decide _)) = true at alphanumeric
    simp only [Bool.or_eq_true, Bool.and_eq_true, decide_eq_true_eq, ge_iff_le,
      UInt32.le_iff_toNat_le] at alphanumeric
    show c.val.toNat < 0x80
    have bounds : 'Z'.val.toNat = 0x5a ∧ 'z'.val.toNat = 0x7a ∧ '9'.val.toNat = 0x39 :=
      ⟨rfl, rfl, rfl⟩
    omega
  · have small : tokenMarks.all (·.toNat < 0x80) = true := by decide
    exact of_decide_eq_true (List.all_eq_true.mp small c (List.contains_iff_mem.mp mark))

theorem token_char_solid {c : Char} (token : isTokenChar c = true) : isBlank c = false :=
  of_ascii (P := fun c => isTokenChar c = true → isBlank c = false) (by decide +kernel)
    (token_char_ascii token) token

theorem not_mem_token {d : Char} {s : List Char} (separator : isTokenChar d = false)
    (token : isToken s = true) : d ∉ s := by
  intro member
  rw [((is_token_iff s).mp token).2 d member] at separator
  cases separator

theorem token_solid {s : List Char} (token : isToken s = true) : ∀ c ∈ s, isBlank c = false :=
  fun c member => token_char_solid (((is_token_iff s).mp token).2 c member)

theorem trim_token {s : List Char} (token : isToken s = true) : trim s = s :=
  trim_of_solid (token_solid token)

end HandlerRouting.Text
