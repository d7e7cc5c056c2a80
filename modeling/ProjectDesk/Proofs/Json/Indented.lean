import ProjectDesk.Proofs.Json.Layout

/-!
Texts with one member a line. The breaks and the spaces before each line are only gaps, so such a
text is read as the one without space is.
-/

namespace ProjectDesk.Json

theorem isGap_space : IsGap [' '] := by
  intro c hc
  rw [List.mem_singleton.mp hc]
  rfl

namespace Value

theorem isGap_newline (depth : Nat) : IsGap (newline depth) := by
  intro c hc
  rcases List.mem_cons.mp hc with rfl | hc
  · rfl
  · rw [List.eq_of_mem_replicate hc]
    rfl

mutual

theorem written_indentedText {v : Value} (whole : v.isWhole = true) (depth : Nat) :
    Written v (v.indentedText depth) := by
  cases v with
  | null => exact .null
  | bool b =>
      cases b with
      | false => exact .no
      | true => exact .yes
  | number n =>
      cases n with
      | whole n => exact .whole n
      | double x => cases whole
  | string s => exact .string s
  | array items =>
      cases items with
      | nil => exact .noItems
      | cons v vs =>
          obtain ⟨first, others⟩ := Bool.and_eq_true_iff.mp whole
          have laid := Written.items (isGap_newline (depth + 1))
            (written_indentedText first (depth + 1)) (written_indentedItems others depth)
          simpa [indentedText] using laid
  | object members =>
      cases members with
      | nil => exact .noMembers
      | cons member ms =>
          obtain ⟨n, v⟩ := member
          obtain ⟨first, others⟩ := Bool.and_eq_true_iff.mp whole
          have laid := Written.members (n := n) (isGap_newline (depth + 1)) isGap_space
            (written_indentedText first (depth + 1)) (written_indentedMembers others depth)
          simpa [indentedText] using laid

theorem written_indentedItems {vs : List Value} (whole : areWhole vs = true) (depth : Nat) :
    ItemsWritten vs (indentedItems depth vs) := by
  cases vs with
  | nil => exact .close (isGap_newline depth)
  | cons v vs =>
      obtain ⟨first, others⟩ := Bool.and_eq_true_iff.mp whole
      have laid := ItemsWritten.next (isGap_newline (depth + 1))
        (written_indentedText first (depth + 1)) (written_indentedItems others depth)
      simpa [indentedItems] using laid

theorem written_indentedMembers {ms : List (String × Value)} (whole : membersAreWhole ms = true)
    (depth : Nat) : MembersWritten ms (indentedMembers depth ms) := by
  cases ms with
  | nil => exact .close (isGap_newline depth)
  | cons member ms =>
      obtain ⟨n, v⟩ := member
      obtain ⟨first, others⟩ := Bool.and_eq_true_iff.mp whole
      have laid := MembersWritten.next (n := n) (isGap_newline (depth + 1)) isGap_space
        (written_indentedText first (depth + 1)) (written_indentedMembers others depth)
      simpa [indentedMembers] using laid

end

theorem read_indented {v : Value} (whole : v.isWhole = true) :
    read v.indented = some (Document.ofValue v) := by
  have read := (written_indentedText whole 0).readChars
  simpa [Json.read, indented] using read

end Value
end ProjectDesk.Json
