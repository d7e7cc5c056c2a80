import ProjectDesk.Text.Decimal

/-!
Runs of digits: where one ends in a text, and how the digits of a number begin.
-/

namespace ProjectDesk.Text

variable {digits rest : List Char} {n : Nat}

/-- No digit comes next. -/
def EndsDigits (rest : List Char) : Prop :=
  ∀ c ∈ rest.head?, c.isDigit = false

theorem endsDigits_cons {c : Char} (h : c.isDigit = false) (rest : List Char) :
    EndsDigits (c :: rest) := by
  simpa [EndsDigits] using h

theorem EndsDigits.takeWhile (h : EndsDigits rest) : rest.takeWhile Char.isDigit = [] := by
  cases rest with
  | nil => rfl
  | cons c rest => simp [h c (by simp)]

theorem EndsDigits.dropWhile (h : EndsDigits rest) : rest.dropWhile Char.isDigit = rest := by
  cases rest with
  | nil => rfl
  | cons c rest => simp [h c (by simp)]

theorem takeWhile_digits (all : ∀ c ∈ digits, c.isDigit = true) (h : EndsDigits rest) :
    (digits ++ rest).takeWhile Char.isDigit = digits := by
  rw [List.takeWhile_append_of_pos all, h.takeWhile, List.append_nil]

theorem dropWhile_digits (all : ∀ c ∈ digits, c.isDigit = true) (h : EndsDigits rest) :
    (digits ++ rest).dropWhile Char.isDigit = rest := by
  rw [List.dropWhile_append_of_pos all, h.dropWhile]

theorem isDigit_of_mem {c : Char} (hc : c ∈ Nat.toDigits 10 n) : c.isDigit = true :=
  Nat.isDigit_of_mem_toDigits (by decide) (by decide) hc

theorem digitChar_ne_zero {n : Nat} (some : n ≠ 0) (small : n < 10) : Nat.digitChar n ≠ '0' := by
  have digits : ∀ n < 10, n ≠ 0 → Nat.digitChar n ≠ '0' := by decide
  exact digits n small some

/-- The digits of a number do not begin with zero, unless it is zero. -/
theorem toDigits_eq_cons (some : n ≠ 0) :
    ∃ c rest, Nat.toDigits 10 n = c :: rest ∧ c ≠ '0' := by
  induction n using Nat.strongRecOn with
  | ind n ih =>
      by_cases small : n < 10
      · exact ⟨_, [], Nat.toDigits_of_lt_base small, digitChar_ne_zero some small⟩
      · have fewer : n / 10 < n := by omega
        obtain ⟨c, rest, digits, leading⟩ := ih (n / 10) fewer (by omega)
        refine ⟨c, rest ++ [Nat.digitChar (n % 10)], ?_, leading⟩
        rw [Nat.toDigits_of_base_le (by decide) (by omega), digits]
        rfl

/-- A minus sign or a digit. -/
def IsDecimal (c : Char) : Prop :=
  c = '-' ∨ c.isDigit = true

instance (c : Char) : Decidable (IsDecimal c) := inferInstanceAs (Decidable (_ ∨ _))

theorem isDecimal_of_mem {c : Char} {n : Int} (hc : c ∈ decimalChars n) : IsDecimal c := by
  unfold decimalChars at hc
  split at hc
  · exact (List.mem_cons.mp hc).imp_right isDigit_of_mem
  · exact .inr (isDigit_of_mem hc)

theorem decimalChars_ne_nil (n : Int) : decimalChars n ≠ [] := by
  unfold decimalChars
  split
  · exact List.cons_ne_nil _ _
  · exact Nat.toDigits_ne_nil

end ProjectDesk.Text
