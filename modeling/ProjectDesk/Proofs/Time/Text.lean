import Mathlib.Algebra.Group.Nat.Defs
import ProjectDesk.Proofs.Text.Digits
import ProjectDesk.Time.Printer
import ProjectDesk.Time.Reader

/-!
Instants read back from their own texts: every number has its digits padded to the width that the
reader takes at most, and the offset is none.
-/

namespace ProjectDesk.Time

/-! Numbers. -/

theorem isDigit_of_mem_padded {w n : Nat} {c : Char} (hc : c ∈ padded w n) :
    c.isDigit = true := by
  rcases List.mem_append.mp hc with zero | digit
  · obtain rfl := List.eq_of_mem_replicate zero
    rfl
  · exact Text.isDigit_of_mem digit

theorem ofDigitChars_padded (width n : Nat) : Nat.ofDigitChars 10 (padded width n) 0 = n := by
  simp [padded, Nat.ofDigitChars_append]

theorem length_padded {w n : Nat} (some : 0 < w) (small : n < 10 ^ w) :
    (padded w n).length = w := by
  have fits := (Nat.length_toDigits_le_iff (by decide) some).mpr small
  simp only [padded, List.length_append, List.length_replicate]
  omega

theorem padded_ne_nil (width n : Nat) : padded width n ≠ [] :=
  List.append_ne_nil_of_right_ne_nil _ Nat.toDigits_ne_nil

theorem isBlank_eq_false_of_isDigit {c : Char} (digit : c.isDigit = true) :
    Text.isBlank c = false := by
  simp only [Char.isDigit, Bool.and_eq_true, decide_eq_true_eq] at digit
  have range : 48 ≤ c.toNat ∧ c.toNat ≤ 57 := digit
  simp only [Text.isBlank, Bool.or_eq_false_iff, Bool.and_eq_false_iff, decide_eq_false_iff_not,
    beq_eq_false_iff_ne]
  omega

theorem dropBlank_cons {c : Char} (solid : Text.isBlank c = false) (rest : List Char) :
    Text.dropBlank (c :: rest) = c :: rest :=
  List.dropWhile_cons_of_neg (by simp [solid])

theorem dropBlank_padded (width n : Nat) (rest : List Char) :
    Text.dropBlank (padded width n ++ rest) = padded width n ++ rest := by
  obtain ⟨c, digits, same⟩ := List.exists_cons_of_ne_nil (padded_ne_nil width n)
  have digit : c.isDigit = true := isDigit_of_mem_padded (n := n) (by rw [same]; exact .head _)
  rw [same]
  exact dropBlank_cons (isBlank_eq_false_of_isDigit digit) _

theorem takeWhile_padded (width n : Nat) :
    (padded width n).takeWhile Char.isDigit = padded width n := by
  have all : ∀ c ∈ padded width n, c.isDigit = true := fun _ => isDigit_of_mem_padded
  have none : Text.EndsDigits [] := nofun
  simpa using Text.takeWhile_digits all none

theorem readNumber_padded {w n : Nat} (some : 0 < w) (small : n < 10 ^ w)
    (rest : List Char) : readNumber w (padded w n ++ rest) = .some (n, rest) := by
  have length := length_padded some small
  unfold readNumber
  simp only [dropBlank_padded, List.take_left' length, takeWhile_padded]
  split
  · exact absurd ‹_› (padded_ne_nil w n)
  · simp [ofDigitChars_padded]

theorem readYear_signed {n : Nat} {rest : List Char} (ends : Text.EndsDigits rest)
    (value : Nat → Int) :
    readYear.signed (padded 4 n ++ rest) value = some (value n, rest) := by
  unfold readYear.signed
  rw [Text.takeWhile_digits (fun _ => isDigit_of_mem_padded) ends]
  split
  · exact absurd ‹_› (padded_ne_nil 4 n)
  · simp [ofDigitChars_padded]

theorem readYear_yearText (year : Int) {rest : List Char} (ends : Text.EndsDigits rest) :
    readYear (yearText year ++ rest) = some (year, rest) := by
  unfold yearText
  split
  · rename_i before
    have value : -(year.natAbs : Int) = year := by omega
    generalize year.natAbs = n at value ⊢
    simp [readYear, dropBlank_cons (c := '-') rfl, readYear_signed ends, value]
  split
  · have value : (year.natAbs : Int) = year := by omega
    generalize year.natAbs = n at value ⊢
    simp [readYear, dropBlank_cons (c := '+') rfl, readYear_signed ends, value]
  · have value : (year.natAbs : Int) = year := by omega
    have read := readNumber_padded (w := 4) (n := year.natAbs) (by decide) (by omega) rest
    have start := dropBlank_padded 4 year.natAbs rest
    obtain ⟨c, digits, same⟩ := List.exists_cons_of_ne_nil (padded_ne_nil 4 year.natAbs)
    have digit : c.isDigit = true :=
      isDigit_of_mem_padded (n := year.natAbs) (by rw [same]; exact .head _)
    rw [same, List.cons_append] at read start ⊢
    unfold readYear
    rw [start]
    dsimp only
    split
    case h_3 => simp [read, value]
    all_goals
      rename_i first
      obtain rfl := (List.cons.inj first).1
      exact absurd digit (by decide)

theorem readMark_cons (mark : Char) (solid : Text.isBlank mark = false) (rest : List Char) :
    readMark mark (mark :: rest) = some rest := by
  simp [readMark, dropBlank_cons solid]

theorem readNanos_padded {w n : Nat} (some : 0 < w) (narrow : w ≤ 9)
    (small : n < 10 ^ w) {rest : List Char} (ends : Text.EndsDigits rest) :
    readNanos ('.' :: padded w n ++ rest) = .some (n * 10 ^ (9 - w), rest) := by
  have length := length_padded some small
  rw [List.cons_append, readNanos, Text.takeWhile_digits (fun _ => isDigit_of_mem_padded) ends]
  split
  · exact absurd ‹_› (padded_ne_nil w n)
  · have all : (padded w n).take 9 = padded w n := List.take_of_length_le (by omega)
    simp [all, ofDigitChars_padded, length]

theorem readNanos_nanosText {nanos : Nat} (small : nanos < 1000000000) (rest : List Char) :
    readNanos (nanosText nanos ++ 'Z' :: rest) = some (nanos, 'Z' :: rest) := by
  have ends : Text.EndsDigits ('Z' :: rest) := Text.endsDigits_cons rfl rest
  have read {w n : Nat} (some : 0 < w) (narrow : w ≤ 9) (fits : n < 10 ^ w)
      (whole : n * 10 ^ (9 - w) = nanos) :
      readNanos ('.' :: padded w n ++ 'Z' :: rest) = .some (nanos, 'Z' :: rest) := by
    rw [readNanos_padded some narrow fits ends, whole]
  unfold nanosText
  split
  · subst nanos
    rfl
  split
  · exact read (by decide) (by decide) (by omega) (by omega)
  split
  · exact read (by decide) (by decide) (by omega) (by omega)
  · exact read (by decide) (by decide) small (by omega)

/-! Instants. -/

theorem atOffset_zero (date : Date) {hour minute : Nat} (second nanos : Nat) (ofDay : hour < 24)
    (ofHour : minute < 60) :
    atOffset date hour minute second nanos 0 = ⟨date, hour, minute, second, nanos⟩ := by
  have minutes : ((hour * 60 + minute - 0 : Int) % 1440).toNat = hour * 60 + minute := by omega
  simp only [atOffset, minutes]
  rw [if_neg (by omega), if_neg (by omega)]
  congr 1
  · omega
  · omega

theorem readDate_chars {date : Date} (valid : date.isValid = true) (rest : List Char) :
    readDate (yearText date.year ++
        '-' :: (padded 2 date.month ++ '-' :: (padded 2 date.day ++ rest))) =
      some (date, rest) := by
  simp only [Date.isValid, Bool.and_eq_true, decide_eq_true_eq] at valid
  have days : daysIn date.year date.month ≤ 31 := by
    unfold daysIn
    split <;> split <;> omega
  have month := readNumber_padded (w := 2) (n := date.month) (by decide) (by omega)
  have day := readNumber_padded (w := 2) (n := date.day) (by decide) (by omega)
  have mark := readMark_cons '-' rfl
  have year (rest : List Char) :=
    readYear_yearText date.year (Text.endsDigits_cons (c := '-') rfl rest)
  simp [readDate, year, month, day, mark]

namespace Instant

theorem readChars_chars {t : Instant} (valid : t.isValid = true) : readChars t.chars = some t := by
  have inside := valid
  simp only [isValid, Bool.and_eq_true, decide_eq_true_eq] at inside
  obtain ⟨⟨⟨⟨⟨-, date⟩, hours⟩, minutes⟩, seconds⟩, nanos⟩ := inside
  have hour := readNumber_padded (w := 2) (n := t.hour) (by decide) (by omega)
  have minute := readNumber_padded (w := 2) (n := t.minute) (by decide) (by omega)
  have second := readNumber_padded (w := 2) (n := t.second) (by decide) (by omega)
  have mark := readMark_cons ':' rfl
  have none : Text.dropBlank ['Z'] = ['Z'] := rfl
  have utc := atOffset_zero t.date t.second t.nanos hours minutes
  have nothing : Text.dropBlank [] = [] := rfl
  simp [readChars, chars, readDate_chars date, readSeparator, hour, minute, second, mark,
    readNanos_nanosText nanos, none, readOffset, utc, valid, nothing]

theorem read_text {t : Instant} (valid : t.isValid = true) : read t.text = some t := by
  simpa [read, text] using readChars_chars valid

theorem isValid_of_read {text : String} {t : Instant} (h : read text = some t) :
    t.isValid = true := by
  simp only [read, readChars, Option.bind_eq_bind, Option.bind_eq_some_iff] at h
  obtain ⟨_, -, _, -, _, -, _, -, _, -, _, -, _, -, _, -, _, -, utc⟩ := h
  split at utc
  · cases utc
    simp_all
  · cases utc

end Instant

end ProjectDesk.Time
