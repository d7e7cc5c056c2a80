import Mathlib.Data.List.Basic
import ProjectDesk.Range
import ProjectDesk.Proofs.Text.Cut
import ProjectDesk.Proofs.Text.Digits
import ProjectDesk.Store.Basic

/-!
The names of tombstones. A mark that no valid name holds stands between what is left of the old name
and the id, so that no tombstone can be taken for a live request or for another tombstone.
-/

namespace ProjectDesk

namespace Text

theorem IsDecimal.utf8Size {c : Char} (h : IsDecimal c) : c.utf8Size = 1 := by
  rcases h with rfl | digit
  · rfl
  · simp only [Char.isDigit, ge_iff_le, Bool.and_eq_true, decide_eq_true_eq] at digit
    have small : c.val ≤ 127 := UInt32.le_trans digit.2 (by decide)
    simp [Char.utf8Size, small]

theorem byteLength_eq_length {cs : List Char} (h : ∀ c ∈ cs, IsDecimal c) :
    byteLength cs = cs.length := by
  induction cs with
  | nil => rfl
  | cons c cs ih =>
      rw [byteLength, (h c (.head _)).utf8Size, ih fun c hc => h c (.tail _ hc), List.length_cons,
        Nat.add_comm]

theorem length_decimalChars_le {n : Int} (h : Range.signed64.has n = true) :
    (decimalChars n).length ≤ 20 := by
  obtain ⟨least, greatest⟩ := Bool.and_eq_true_iff.mp h
  have least : -9223372036854775808 ≤ n := of_decide_eq_true least
  have greatest : n ≤ 9223372036854775807 := of_decide_eq_true greatest
  have digits : (Nat.toDigits 10 n.natAbs).length ≤ 19 := by
    rw [Nat.length_toDigits_le_iff (by decide) (by decide)]
    omega
  unfold decimalChars
  split
  · exact Nat.succ_le_succ digits
  · exact Nat.le_succ_of_le digits

theorem decimalChars_injective : Function.Injective decimalChars := by
  have value {k l : Nat} (same : Nat.toDigits 10 k = Nat.toDigits 10 l) : k = l := by
    have read := congrArg (Nat.ofDigitChars 10 · 0) same
    simpa using read
  have signed {k l : Nat} {cs : List Char} (same : '-' :: cs = Nat.toDigits 10 l) : False := by
    have digit : '-'.isDigit = true := by
      refine Nat.isDigit_of_mem_toDigits (b := 10) (n := l) (by decide) (by decide) ?_
      rw [← same]
      exact .head _
    revert digit
    decide
  intro n m same
  unfold decimalChars at same
  split at same <;> split at same
  · have abs := value (List.cons.inj same).2
    omega
  · exact (signed (k := 0) same).elim
  · exact (signed (k := 0) same.symm).elim
  · have abs := value same
    omega

end Text

/-! Valid names do not hold the mark. -/

theorem mark_not_mem_of_nameGoesOn {due : Bool} {cs : List Char} (h : nameGoesOn due cs = true) :
    '#' ∉ cs := by
  induction cs generalizing due with
  | nil => exact List.not_mem_nil
  | cons c cs ih =>
      unfold nameGoesOn at h
      rw [List.mem_cons, not_or]
      split at h
      · rename_i letter
        refine ⟨?_, ih h⟩
        rintro rfl
        revert letter
        decide
      · simp only [Bool.and_eq_true] at h
        refine ⟨?_, ih h.2⟩
        rintro rfl
        exact absurd h.1.2 (by decide)

theorem mark_not_mem_of_checkName {name : String} (valid : checkName name = .ok ()) :
    '#' ∉ name.toList := by
  unfold checkName at valid
  dsimp only at valid
  split at valid
  · cases valid
  · split at valid
    · cases valid
    · split at valid
      · exact mark_not_mem_of_nameGoesOn ‹_›
      · cases valid

namespace Store

variable {name name' : String} {id id' : Int}

theorem toList_tombstoneName (name : String) (id : Int) :
    ∃ p, p <+: name.toList ∧
      (tombstoneName name id).toList = p ++ '#' :: Text.decimalChars id ∧
      Text.byteLength p ≤ nameLimit - Text.byteLength ('#' :: Text.decimalChars id) := by
  have suffix : ("#" ++ Text.decimal id).toList = '#' :: Text.decimalChars id := by
    simp [Text.decimal]
  refine ⟨_, Text.takeBytes_prefix name.toList _, ?_, Text.byteLength_takeBytes_le _ _⟩
  rw [tombstoneName, Text.cutToFit, String.toList_ofList, suffix]

theorem utf8ByteSize_tombstoneName (name : String) (inRange : Range.signed64.has id = true) :
    (tombstoneName name id).utf8ByteSize ≤ nameLimit := by
  obtain ⟨p, -, chars, room⟩ := toList_tombstoneName name id
  have short := Text.length_decimalChars_le inRange
  have mark : Text.byteLength ('#' :: Text.decimalChars id) = 1 + (Text.decimalChars id).length := by
    rw [Text.byteLength, Text.byteLength_eq_length fun c hc => Text.isDecimal_of_mem hc]
    rfl
  rw [← String.ofList_toList (s := tombstoneName name id), Text.utf8ByteSize_ofList, chars,
    Text.byteLength_append]
  rw [mark] at room ⊢
  unfold nameLimit at room ⊢
  omega

theorem tombstoneName_not_valid (name : String) (id : Int) :
    checkName (tombstoneName name id) ≠ .ok () := by
  obtain ⟨p, -, chars, -⟩ := toList_tombstoneName name id
  intro valid
  apply mark_not_mem_of_checkName valid
  rw [chars]
  exact List.mem_append_right _ (.head _)

/-- The id can be read off the name. -/
theorem id_of_tombstoneName (valid : checkName name = .ok ())
    (same : tombstoneName name id = tombstoneName name' id') : id = id' := by
  obtain ⟨p, within, chars, -⟩ := toList_tombstoneName name id
  obtain ⟨p', -, chars', -⟩ := toList_tombstoneName name' id'
  rw [same, chars'] at chars
  have noMark : '#' ∉ p := fun mark => mark_not_mem_of_checkName valid (within.subset mark)
  have noMark' : '#' ∉ Text.decimalChars id := by
    intro mark
    rcases Text.isDecimal_of_mem mark with minus | digit
    · exact absurd minus (by decide)
    · exact absurd digit (by decide)
  have parts := (List.append_cons_inj_of_notMem noMark noMark').mp chars.symm
  exact Text.decimalChars_injective parts.2.2

end Store
end ProjectDesk
