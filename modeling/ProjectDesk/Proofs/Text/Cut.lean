import ProjectDesk.Text.Cut

/-!
Texts cut to fit. What is kept is the longest part from the start that leaves room for the suffix.
The same cut can be made in the bytes: from the last position that leaves room one steps back to the
end of a character, and neither passes the start nor cuts a character in two.
-/

namespace ProjectDesk.Text

theorem takeBytes_prefix (cs : List Char) (room : Nat) : takeBytes cs room <+: cs := by
  induction cs generalizing room with
  | nil => exact List.nil_prefix
  | cons c cs ih =>
      unfold takeBytes
      split
      · exact (List.prefix_cons_inj c).mpr (ih _)
      · exact List.nil_prefix

/-- Bytes as the text itself has them. -/
theorem utf8ByteSize_ofList (cs : List Char) :
    (String.ofList cs).utf8ByteSize = byteLength cs := by
  induction cs with
  | nil => rfl
  | cons c cs ih =>
      rw [String.ofList_cons, String.utf8ByteSize_append, ih]
      simp [byteLength]

theorem byteLength_toList (s : String) : byteLength s.toList = s.utf8ByteSize := by
  rw [← utf8ByteSize_ofList, String.ofList_toList]

theorem byteLength_append (cs more : List Char) :
    byteLength (cs ++ more) = byteLength cs + byteLength more := by
  induction cs with
  | nil => exact (Nat.zero_add _).symm
  | cons c cs ih => rw [List.cons_append, byteLength, byteLength, ih, Nat.add_assoc]

theorem byteLength_mono {p cs : List Char} (h : p <+: cs) :
    byteLength p ≤ byteLength cs := by
  obtain ⟨rest, rfl⟩ := h
  rw [byteLength_append]
  exact Nat.le_add_right _ _

/-- Whatever fits is part of what is taken. -/
theorem prefix_takeBytes {q cs : List Char} {room : Nat} (h : q <+: cs)
    (fits : byteLength q ≤ room) : q <+: takeBytes cs room := by
  induction cs generalizing q room with
  | nil => exact h
  | cons c cs ih =>
      cases q with
      | nil => exact List.nil_prefix
      | cons d q =>
          obtain ⟨rfl, within⟩ := List.cons_prefix_cons.mp h
          rw [byteLength] at fits
          rw [takeBytes, if_pos (by omega)]
          exact (List.prefix_cons_inj d).mpr (ih within (by omega))

theorem takeBytes_eq_self {cs : List Char} {room : Nat} (fits : byteLength cs ≤ room) :
    takeBytes cs room = cs := by
  have taken := takeBytes_prefix cs room
  have all := prefix_takeBytes (List.prefix_refl cs) fits
  exact taken.eq_of_length_le all.length_le

theorem takeBytes_zero (cs : List Char) : takeBytes cs 0 = [] := by
  cases cs with
  | nil => rfl
  | cons c cs => rw [takeBytes, if_neg (Nat.not_le.mpr c.utf8Size_pos)]

/-! Positions in the bytes. -/

/-- The first position, on the way back from this one, where a character ends or none has begun;
nothing where the way passes the start. -/
def boundaryBefore? (text : String) : Nat → Option Nat
  | 0 => if String.Pos.Raw.isValid text ⟨0⟩ then some 0 else none
  | pos + 1 =>
      if String.Pos.Raw.isValid text ⟨pos + 1⟩ then some (pos + 1) else boundaryBefore? text pos

/-- The text before a position; nothing where that is inside a character. -/
def before? (text : String) (pos : Nat) : Option String :=
  if h : String.Pos.Raw.IsValid text ⟨pos⟩ then some (text.extract text.startPos ⟨⟨pos⟩, h⟩)
  else none

/-- The cut in the bytes. -/
def cutBytes? (text suffix : String) (limit : Nat) : Option String :=
  if text.utf8ByteSize + suffix.utf8ByteSize ≤ limit then some (text ++ suffix)
  else do
    let stop ← boundaryBefore? text (min (limit - suffix.utf8ByteSize) text.utf8ByteSize)
    let kept ← before? text stop
    some (kept ++ suffix)

/-- A character ends where some leading characters do. -/
theorem isValid_iff {text : String} {pos : Nat} :
    String.Pos.Raw.IsValid text ⟨pos⟩ ↔ ∃ p, p <+: text.toList ∧ byteLength p = pos := by
  rw [String.Pos.Raw.isValid_iff_exists_take_toList]
  constructor
  · rintro ⟨n, same⟩
    exact ⟨text.toList.take n, List.take_prefix n _, by rw [← utf8ByteSize_ofList, ← same]⟩
  · rintro ⟨p, within, same⟩
    refine ⟨p.length, ?_⟩
    rw [← List.prefix_iff_eq_take.mp within, utf8ByteSize_ofList, same]

theorem boundaryBefore?_eq_some {text : String} {stop pos : Nat} (le : stop ≤ pos)
    (boundary : String.Pos.Raw.IsValid text ⟨stop⟩)
    (inside : ∀ n, stop < n → n ≤ pos → ¬ String.Pos.Raw.IsValid text ⟨n⟩) :
    boundaryBefore? text pos = some stop := by
  induction pos with
  | zero =>
      obtain rfl : stop = 0 := Nat.le_zero.mp le
      rw [boundaryBefore?, if_pos (String.Pos.Raw.isValid_eq_true_iff.mpr boundary)]
  | succ pos ih =>
      unfold boundaryBefore?
      rcases Nat.lt_or_eq_of_le le with before | rfl
      · have within := inside (pos + 1) before (Nat.le_refl _)
        rw [if_neg fun h => within (String.Pos.Raw.isValid_eq_true_iff.mp h)]
        exact ih (by omega) fun n more less => inside n more (by omega)
      · rw [if_pos (String.Pos.Raw.isValid_eq_true_iff.mpr boundary)]

theorem before?_append (kept rest : String) :
    before? (kept ++ rest) kept.utf8ByteSize = some kept := by
  have boundary : String.Pos.Raw.IsValid (kept ++ rest) ⟨kept.utf8ByteSize⟩ :=
    String.Pos.Raw.isValid_iff_exists_append.mpr ⟨kept, rest, rfl, rfl⟩
  rw [before?, dif_pos boundary, Option.some.injEq, ← String.toByteArray_inj,
    String.toByteArray_extract, String.toByteArray_append]
  exact ByteArray.extract_append_eq_left rfl

theorem boundaryBefore?_takeBytes (text : String) (room : Nat) :
    boundaryBefore? text (min room text.utf8ByteSize) =
      some (byteLength (takeBytes text.toList room)) := by
  have within := takeBytes_prefix text.toList room
  refine boundaryBefore?_eq_some (Nat.le_min.mpr ⟨byteLength_takeBytes_le _ _, ?_⟩)
    (isValid_iff.mpr ⟨_, within, rfl⟩) fun n more less boundary => ?_
  · rw [← byteLength_toList]
    exact byteLength_mono within
  · obtain ⟨q, part, rfl⟩ := isValid_iff.mp boundary
    have taken := prefix_takeBytes part (Nat.le_trans less (Nat.min_le_left _ _))
    exact absurd (byteLength_mono taken) (Nat.not_le.mpr more)

theorem before?_takeBytes (text : String) (room : Nat) :
    before? text (byteLength (takeBytes text.toList room)) =
      some (String.ofList (takeBytes text.toList room)) := by
  obtain ⟨rest, parts⟩ := takeBytes_prefix text.toList room
  have cut := before?_append (String.ofList (takeBytes text.toList room)) (String.ofList rest)
  rwa [← String.ofList_append, parts, String.ofList_toList, utf8ByteSize_ofList] at cut

theorem cutToFit_eq (text suffix : String) (limit : Nat) :
    cutToFit text suffix limit =
      String.ofList (takeBytes text.toList (limit - suffix.utf8ByteSize)) ++ suffix := by
  rw [cutToFit, byteLength_toList, String.ofList_append, String.ofList_toList]

theorem cutBytes?_eq (text suffix : String) (limit : Nat) :
    cutBytes? text suffix limit = some (cutToFit text suffix limit) := by
  rw [cutToFit_eq, cutBytes?]
  split
  · rename_i fits
    rw [takeBytes_eq_self (by rw [byteLength_toList]; omega), String.ofList_toList]
  · simp [boundaryBefore?_takeBytes, before?_takeBytes]

theorem cutToFit_longest (text suffix : String) (limit : Nat) :
    cutBytes? text suffix limit = some (cutToFit text suffix limit) ∧
      ∃ kept : String, kept.toList <+: text.toList ∧ cutToFit text suffix limit = kept ++ suffix ∧
        (suffix.utf8ByteSize ≤ limit →
          (cutToFit text suffix limit).utf8ByteSize ≤ limit ∧
          (∀ other : String, other.toList <+: text.toList →
            (other ++ suffix).utf8ByteSize ≤ limit → other.toList <+: kept.toList) ∧
          ((text ++ suffix).utf8ByteSize ≤ limit → kept = text)) ∧
        (limit < suffix.utf8ByteSize → kept = "") := by
  refine ⟨cutBytes?_eq text suffix limit,
    String.ofList (takeBytes text.toList (limit - suffix.utf8ByteSize)), ?_,
    cutToFit_eq text suffix limit, fun room => ⟨?_, fun other part fits => ?_, fun fits => ?_⟩,
    fun none => ?_⟩
  · rw [String.toList_ofList]
    exact takeBytes_prefix _ _
  · rw [cutToFit_eq, String.utf8ByteSize_append, utf8ByteSize_ofList]
    have short := byteLength_takeBytes_le text.toList (limit - suffix.utf8ByteSize)
    omega
  · rw [String.utf8ByteSize_append] at fits
    rw [String.toList_ofList]
    exact prefix_takeBytes part (by rw [byteLength_toList]; omega)
  · rw [String.utf8ByteSize_append] at fits
    rw [takeBytes_eq_self (by rw [byteLength_toList]; omega), String.ofList_toList]
  · rw [Nat.sub_eq_zero_of_le (Nat.le_of_lt none), takeBytes_zero]

end ProjectDesk.Text
