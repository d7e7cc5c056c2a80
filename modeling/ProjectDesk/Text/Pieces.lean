/-!
The pieces of a text between separators; there is always one more of them than separators.
-/

namespace ProjectDesk.Text

def pieces (separator : Char) : List Char → List (List Char)
  | [] => [[]]
  | c :: cs =>
      match pieces separator cs with
      | [] => [[c]]
      | piece :: more => if c = separator then [] :: piece :: more else (c :: piece) :: more

/-- The pieces with the separator between them. -/
def joined (separator : Char) : List (List Char) → List Char
  | [] => []
  | [piece] => piece
  | piece :: more => piece ++ separator :: joined separator more

theorem pieces_ne_nil (separator : Char) (cs : List Char) : pieces separator cs ≠ [] := by
  cases cs with
  | nil => simp [pieces]
  | cons c cs =>
      simp only [pieces]
      split
      · simp
      · split <;> simp

theorem joined_pieces (separator : Char) (cs : List Char) :
    joined separator (pieces separator cs) = cs := by
  induction cs with
  | nil => rfl
  | cons c cs ih =>
      simp only [pieces]
      split
      · next h => exact absurd h (pieces_ne_nil separator cs)
      · next piece more h =>
          rw [h] at ih
          split
          · next hc => simp [joined, ih, hc]
          · cases more <;> simp_all [joined]

end ProjectDesk.Text
