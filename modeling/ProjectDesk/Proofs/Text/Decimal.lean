import ProjectDesk.Proofs.Text.Digits

/-!
Whole numbers as they may be written: with or without a sign, in as many digits as one likes, of
which each counts by its place. All of these are read, and nothing else; what is printed is one of
them.
-/

namespace ProjectDesk.Text

variable {cs : List Char} {n : Int}

/-- At least one, from 0 to 9. -/
def IsDigits (cs : List Char) : Prop :=
  cs ≠ [] ∧ ∀ c ∈ cs, c.isDigit = true

/-- The units are at the end. -/
def placeValue : List Char → Nat
  | [] => 0
  | c :: cs => (c.toNat - '0'.toNat) * Nat.pow 10 cs.length + placeValue cs

/-- A text that stands for a number. -/
inductive WholeNumber : List Char → Int → Prop
  | unsigned {cs : List Char} (digits : IsDigits cs) : WholeNumber cs (placeValue cs)
  | positive {cs : List Char} (digits : IsDigits cs) : WholeNumber ('+' :: cs) (placeValue cs)
  | negative {cs : List Char} (digits : IsDigits cs) :
      WholeNumber ('-' :: cs) (-(placeValue cs : Int))

theorem ofDigitChars_eq_placeValue (cs : List Char) : Nat.ofDigitChars 10 cs 0 = placeValue cs := by
  induction cs with
  | nil => rfl
  | cons c cs ih =>
      rw [Nat.ofDigitChars_cons, Nat.ofDigitChars_eq_ofDigitChars_zero, ih, placeValue,
        Nat.mul_zero, Nat.zero_add, Nat.mul_comm]
      rfl

theorem unsigned?_eq_some_iff {value : Nat} :
    readDecimal?.unsigned? cs = some value ↔ IsDigits cs ∧ placeValue cs = value := by
  simp [readDecimal?.unsigned?, IsDigits, ofDigitChars_eq_placeValue]

theorem not_isDigits_cons {c : Char} (sign : c.isDigit = false) : ¬ IsDigits (c :: cs) := by
  intro digits
  have digit := digits.2 c (.head _)
  rw [sign] at digit
  cases digit

theorem readDecimal?_eq_some_iff : readDecimal? cs = some n ↔ WholeNumber cs n := by
  constructor
  · intro read
    unfold readDecimal? at read
    split at read
    all_goals
      simp only [Option.map_eq_some_iff, Option.bind_eq_bind, Option.bind_eq_some_iff,
        Option.pure_def, Option.some.injEq, unsigned?_eq_some_iff] at read
      obtain ⟨-, ⟨value, ⟨digits, rfl⟩, rfl⟩, rfl⟩ := read
    · exact .negative digits
    · exact .positive digits
    · exact .unsigned digits
  · intro number
    cases number with
    | positive digits | negative digits =>
        simp [readDecimal?, unsigned?_eq_some_iff.mpr ⟨digits, rfl⟩]
    | unsigned digits =>
        unfold readDecimal?
        split
        · exact (not_isDigits_cons rfl digits).elim
        · exact (not_isDigits_cons rfl digits).elim
        · rw [unsigned?_eq_some_iff.mpr ⟨digits, rfl⟩]
          rfl

theorem isDigits_toDigits (n : Nat) : IsDigits (Nat.toDigits 10 n) :=
  ⟨Nat.toDigits_ne_nil, fun _ => isDigit_of_mem⟩

theorem placeValue_toDigits (n : Nat) : placeValue (Nat.toDigits 10 n) = n := by
  rw [← ofDigitChars_eq_placeValue, Nat.ofDigitChars_ten_toDigits]

theorem wholeNumber_decimalChars (n : Int) : WholeNumber (decimalChars n) n := by
  have digits := isDigits_toDigits n.natAbs
  have value := placeValue_toDigits n.natAbs
  unfold decimalChars
  split
  · have number := WholeNumber.negative digits
    rw [value] at number
    rwa [show -(n.natAbs : Int) = n by omega] at number
  · have number := WholeNumber.unsigned digits
    rw [value] at number
    rwa [show (n.natAbs : Int) = n by omega] at number

end ProjectDesk.Text
