import Mathlib.Data.List.Lex
import Mathlib.Data.String.Basic

/-!
The order of texts is that of their bytes. In UTF-8 a character of a greater code has the greater
byte where the two first differ, whatever follows, so texts compare alike character by character and
byte by byte.
-/

namespace ProjectDesk.Text

variable {m n mark mark' k : Nat}

/-- In UTF-8. -/
def bytes (s : String) : List UInt8 :=
  s.toUTF8.data.toList

theorem bytes_eq_flatMap (s : String) : bytes s = s.toList.flatMap String.utf8EncodeChar := by
  rw [bytes, String.toUTF8_eq_toByteArray, ← String.utf8Encode_toList, List.utf8Encode,
    List.data_toByteArray]

/-- A lead byte with a mark and the highest bits, and six bits in each byte that follows. -/
def packed (mark : Nat) : Nat → Nat → List UInt8
  | 0, n => [.ofNat (n + mark)]
  | k + 1, n => packed mark k (n / 64) ++ [.ofNat (n % 64 + 128)]

/-- The four ways to encode a character. -/
theorem utf8EncodeChar_eq_packed (c : Char) :
    let n := c.val.toNat
    (n < 128 ∧ String.utf8EncodeChar c = packed 0 0 n) ∨
      (128 ≤ n ∧ n < 2048 ∧ String.utf8EncodeChar c = packed 192 1 n) ∨
      (2048 ≤ n ∧ n < 65536 ∧ String.utf8EncodeChar c = packed 224 2 n) ∨
      (65536 ≤ n ∧ n < 1114112 ∧ String.utf8EncodeChar c = packed 240 3 n) := by
  have bound : c.val.toNat < 1114112 := by
    rcases c.valid with valid | valid <;> omega
  unfold String.utf8EncodeChar
  dsimp only
  generalize c.val.toNat = n at bound
  simp only [packed, Nat.div_div_eq_div_mul, List.cons_append, List.nil_append, Nat.reduceMul,
    Nat.add_zero]
  split
  · exact .inl ⟨by omega, rfl⟩
  · split
    · rw [Nat.mod_eq_of_lt (a := n / 64) (by omega)]
      exact .inr (.inl ⟨by omega, by omega, rfl⟩)
    · split
      · rw [Nat.mod_eq_of_lt (a := n / 4096) (by omega)]
        exact .inr (.inr (.inl ⟨by omega, by omega, rfl⟩))
      · rw [Nat.mod_eq_of_lt (a := n / 262144) (by omega)]
        exact .inr (.inr (.inr ⟨by omega, bound, rfl⟩))

theorem cons_lt_of_lt (h : m < n) (bound : n < 256) (x y : List UInt8) :
    UInt8.ofNat m :: x < UInt8.ofNat n :: y := by
  refine .rel (UInt8.lt_iff_toNat_lt.mpr ?_)
  rw [UInt8.toNat_ofNat', UInt8.toNat_ofNat']
  omega

theorem packed_lt (h : m < n) (bound : n / 64 ^ k + mark < 256) (x y : List UInt8) :
    packed mark k m ++ x < packed mark k n ++ y := by
  induction k generalizing m n x y with
  | zero =>
      rw [Nat.pow_zero, Nat.div_one] at bound
      exact cons_lt_of_lt (by omega) bound x y
  | succ k ih =>
      simp only [packed, List.append_assoc]
      rcases Nat.lt_or_eq_of_le (Nat.div_le_div_right (c := 64) h.le) with high | high
      · refine ih high ?_ _ _
        rwa [Nat.div_div_eq_div_mul, ← Nat.pow_succ']
      · rw [high]
        exact List.append_left_lt (cons_lt_of_lt (by omega) (by omega) x y)

theorem packed_eq_cons (mark k n : Nat) :
    ∃ rest, packed mark k n = .ofNat (n / 64 ^ k + mark) :: rest := by
  induction k generalizing n with
  | zero => exact ⟨[], by rw [packed, Nat.pow_zero, Nat.div_one]⟩
  | succ k ih =>
      obtain ⟨rest, eq⟩ := ih (n / 64)
      refine ⟨rest ++ [.ofNat (n % 64 + 128)], ?_⟩
      rw [packed, eq, Nat.div_div_eq_div_mul, ← Nat.pow_succ', List.cons_append]

/-- Different lead bytes decide. -/
theorem packed_lt_of_lead {k' : Nat} (h : m / 64 ^ k + mark < n / 64 ^ k' + mark')
    (bound : n / 64 ^ k' + mark' < 256) (x y : List UInt8) :
    packed mark k m ++ x < packed mark' k' n ++ y := by
  obtain ⟨rest, left⟩ := packed_eq_cons mark k m
  obtain ⟨rest', right⟩ := packed_eq_cons mark' k' n
  rw [left, right]
  exact cons_lt_of_lt h bound _ _

theorem utf8EncodeChar_append_lt {c d : Char} (h : c < d) (x y : List UInt8) :
    String.utf8EncodeChar c ++ x < String.utf8EncodeChar d ++ y := by
  have less : c.val.toNat < d.val.toNat := h
  rcases utf8EncodeChar_eq_packed c with
      ⟨_, left⟩ | ⟨_, _, left⟩ | ⟨_, _, left⟩ | ⟨_, _, left⟩ <;>
    rcases utf8EncodeChar_eq_packed d with
      ⟨_, right⟩ | ⟨_, _, right⟩ | ⟨_, _, right⟩ | ⟨_, _, right⟩ <;>
    rw [left, right] <;>
    first
    | exact packed_lt less (by omega) x y
    | exact packed_lt_of_lead (by omega) (by omega) x y

theorem flatMap_utf8EncodeChar_lt {cs ds : List Char} (h : cs < ds) :
    cs.flatMap String.utf8EncodeChar < ds.flatMap String.utf8EncodeChar := by
  induction h with
  | nil =>
      rename_i d ds
      obtain ⟨b, bs, more⟩ := List.exists_cons_of_ne_nil (String.utf8EncodeChar_ne_nil (c := d))
      rw [List.flatMap_nil, List.flatMap_cons, more]
      exact .nil
  | rel less => exact utf8EncodeChar_append_lt less _ _
  | cons _ ih => exact List.append_left_lt ih

theorem bytes_lt_iff {s t : String} : bytes s < bytes t ↔ s < t := by
  have mono {s t : String} (h : s < t) : bytes s < bytes t := by
    rw [bytes_eq_flatMap, bytes_eq_flatMap]
    exact flatMap_utf8EncodeChar_lt (String.lt_iff_toList_lt.mp h)
  refine ⟨fun h => ?_, mono⟩
  rcases lt_trichotomy s t with less | same | more
  · exact less
  · rw [same] at h
    exact absurd h (List.lt_irrefl _)
  · exact absurd (mono more) (List.lt_asymm h)

end ProjectDesk.Text
