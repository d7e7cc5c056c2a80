import ProjectDesk.Json.Number
import ProjectDesk.Json.Printer
import ProjectDesk.Json.Reader
import ProjectDesk.Proofs.Text.Digits

/-!
Strings and whole numbers as they are written read back as what they were: a string as its
characters, a number as its digits, whatever comes after it that cannot be a part of it.
-/

namespace ProjectDesk.Json

/-! Strings. -/

/-- A string taken apart. -/
def textItems (s : String) : List StringItem :=
  s.toList.map .char

theorem textChars?_map_char (cs : List Char) : textChars? (cs.map .char) = some cs := by
  induction cs with
  | nil => rfl
  | cons c cs ih => simp [textChars?, ih]

@[simp] theorem text?_textItems (s : String) : text? (textItems s) = some s := by
  simp [text?, textItems, textChars?_map_char]

theorem hexNumber?_hexChar :
    ∀ n < 32, Text.hexNumber? ['0', '0', hexChar (n / 16), hexChar n] = some n := by
  decide

theorem unitItem_of_control {n : Nat} (small : n < 32) : unitItem n = .char (Char.ofNat n) := by
  have whole : isLeadingHalf n = false ∧ isTrailingHalf n = false := by
    simp [isLeadingHalf, isTrailingHalf]
    omega
  simp [unitItem, whole]

theorem readString_escapeChar (c : Char) {more rest : List Char} {items : List StringItem}
    (h : readString more = some (items, rest)) :
    readString (escapeChar c ++ more) = some (.char c :: items, rest) := by
  by_cases quote : c = '"'
  · subst c; simp [escapeChar, readString, escaped?, h]
  by_cases backslash : c = '\\'
  · subst c; simp [escapeChar, readString, escaped?, h]
  by_cases backspace : c = '\x08'
  · subst c; simp [escapeChar, readString, escaped?, h]
  by_cases feed : c = '\x0c'
  · subst c; simp [escapeChar, readString, escaped?, h]
  by_cases newline : c = '\n'
  · subst c; simp [escapeChar, readString, escaped?, h]
  by_cases carriage : c = '\r'
  · subst c; simp [escapeChar, readString, escaped?, h]
  by_cases tab : c = '\t'
  · subst c; simp [escapeChar, readString, escaped?, h]
  by_cases control : c.toNat < 32
  · have unit := hexNumber?_hexChar c.toNat control
    simp [escapeChar, quote, backslash, backspace, feed, newline, carriage, tab, control, readString,
      unit, unitItem_of_control control, h]
  · simp [escapeChar, quote, backslash, backspace, feed, newline, carriage, tab, control, readString,
      h]

theorem readString_text (s : String) (rest : List Char) :
    readString (s.toList.flatMap escapeChar ++ '"' :: rest) = some (textItems s, rest) := by
  unfold textItems
  induction s.toList with
  | nil => rfl
  | cons c cs ih =>
      rw [List.flatMap_cons, List.append_assoc]
      exact readString_escapeChar c ih

/-! Whole numbers. -/

/-- A whole number taken apart. -/
def Numeral.ofWhole (n : Int) : Numeral :=
  ⟨n < 0, Nat.toDigits 10 n.natAbs, [], none⟩

/-- A number before this does not go on. -/
def EndsNumber (rest : List Char) : Prop :=
  Text.EndsDigits rest ∧ ∀ c ∈ rest.head?, c ≠ '.' ∧ c ≠ 'e' ∧ c ≠ 'E'

variable {rest : List Char}

theorem readDigits_append {digits : List Char} (all : ∀ c ∈ digits, c.isDigit = true)
    (some : digits ≠ []) (ends : Text.EndsDigits rest) :
    readDigits (digits ++ rest) = .some (digits, rest) := by
  unfold readDigits
  rw [Text.takeWhile_digits all ends, Text.dropWhile_digits all ends]
  cases digits with
  | nil => exact absurd rfl some
  | cons c digits => rfl

theorem readWhole_toDigits (n : Nat) (ends : Text.EndsDigits rest) :
    readWhole (Nat.toDigits 10 n ++ rest) = some (Nat.toDigits 10 n, rest) := by
  by_cases zero : n = 0
  · subst n
    rfl
  · have read : readDigits (Nat.toDigits 10 n ++ rest) = some (Nat.toDigits 10 n, rest) :=
      readDigits_append (fun c => Text.isDigit_of_mem) Nat.toDigits_ne_nil ends
    obtain ⟨c, digits, toDigits, leading⟩ := Text.toDigits_eq_cons zero
    rw [toDigits] at read ⊢
    simpa [readWhole, leading] using read

theorem readUnsigned_toDigits (negative : Bool) (n : Nat) (ends : EndsNumber rest) :
    readUnsigned negative (Nat.toDigits 10 n ++ rest) =
      some (⟨negative, Nat.toDigits 10 n, [], none⟩, rest) := by
  have fraction : readFraction rest = some ([], rest) := by
    cases rest with
    | nil => rfl
    | cons c rest => simp [readFraction, ends.2 c (by simp)]
  have exponent : readExponent rest = some (none, rest) := by
    cases rest with
    | nil => rfl
    | cons c rest => simp [readExponent, ends.2 c (by simp)]
  simp [readUnsigned, readWhole_toDigits n ends.1, fraction, exponent]

theorem readNumeral_decimalChars (n : Int) (ends : EndsNumber rest) :
    readNumeral (Text.decimalChars n ++ rest) = some (Numeral.ofWhole n, rest) := by
  unfold Text.decimalChars Numeral.ofWhole
  split
  · rename_i negative
    simp [readNumeral, readUnsigned_toDigits true _ ends, negative]
  · rename_i natural
    have read := readUnsigned_toDigits false n.natAbs ends
    cases digits : Nat.toDigits 10 n.natAbs with
    | nil => exact absurd digits Nat.toDigits_ne_nil
    | cons c more =>
        have digit : c.isDigit = true := Text.isDigit_of_mem (n := n.natAbs) (by simp [digits])
        have unsigned : c ≠ '-' := by
          rintro rfl
          revert digit
          decide
        rw [digits] at read
        simpa [readNumeral, unsigned, natural] using read

/-- Whole numbers that are kept as such. -/
def IsKept (n : Int) : Prop :=
  -9223372036854775808 ≤ n ∧ n ≤ 18446744073709551615

theorem number?_ofWhole {n : Int} (kept : IsKept n) :
    (Numeral.ofWhole n).number? = some (.whole n) := by
  obtain ⟨least, greatest⟩ := kept
  unfold Numeral.ofWhole Numeral.number?
  by_cases negative : n < 0
  · have positive : 0 < n.natAbs ∧ n.natAbs ≤ 9223372036854775808 := by omega
    have value : -(n.natAbs : Int) = n := by omega
    generalize n.natAbs = m at positive value ⊢
    simp [negative, positive, value]
  · have small : n.natAbs ≤ gatherLimit := by
      unfold gatherLimit
      omega
    have value : (n.natAbs : Int) = n := by omega
    generalize n.natAbs = m at small value ⊢
    simp [negative, small, value]

end ProjectDesk.Json
