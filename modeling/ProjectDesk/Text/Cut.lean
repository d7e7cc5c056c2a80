/-!
Cutting a text short so that it fits, together with a suffix, into a number of UTF-8 bytes.
-/

namespace ProjectDesk.Text

def byteLength : List Char → Nat
  | [] => 0
  | c :: cs => c.utf8Size + byteLength cs

/-- As many leading characters as fit into `room` bytes. -/
def takeBytes : List Char → Nat → List Char
  | [], _ => []
  | c :: cs, room =>
      if c.utf8Size ≤ room then c :: takeBytes cs (room - c.utf8Size) else []

/-- What is left without as many leading characters as it takes to make up `count` bytes. -/
def dropBytes : List Char → Nat → List Char
  | [], _ => []
  | c :: cs, count => if count = 0 then c :: cs else dropBytes cs (count - c.utf8Size)

/-- The suffix stays whole even where it alone is longer than the limit. -/
def cutToFit (text suffix : String) (limit : Nat) : String :=
  String.ofList (takeBytes text.toList (limit - byteLength suffix.toList) ++ suffix.toList)

theorem byteLength_takeBytes_le (cs : List Char) (room : Nat) :
    byteLength (takeBytes cs room) ≤ room := by
  induction cs generalizing room with
  | nil => exact Nat.zero_le _
  | cons c cs ih =>
      simp only [takeBytes]
      split
      · have := ih (room - c.utf8Size)
        rw [byteLength]
        omega
      · exact Nat.zero_le _

end ProjectDesk.Text
