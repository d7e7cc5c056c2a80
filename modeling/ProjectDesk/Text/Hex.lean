/-!
Hexadecimal digits, in either case.
-/

namespace ProjectDesk.Text

def hexDigit? (c : Char) : Option Nat :=
  if '0' ≤ c && c ≤ '9' then some (c.toNat - '0'.toNat)
  else if 'a' ≤ c && c ≤ 'f' then some (c.toNat - 'a'.toNat + 10)
  else if 'A' ≤ c && c ≤ 'F' then some (c.toNat - 'A'.toNat + 10)
  else none

/-- The number that digits stand for, the greatest place first. -/
def hexNumber? (cs : List Char) : Option Nat :=
  cs.foldl (fun n c => do some (16 * (← n) + (← hexDigit? c))) (some 0)

end ProjectDesk.Text
