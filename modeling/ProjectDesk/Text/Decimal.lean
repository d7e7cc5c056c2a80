/-!
Whole numbers in decimal: a minus sign if need be, then the digits without leading zeros.
-/

namespace ProjectDesk.Text

def decimalChars (n : Int) : List Char :=
  if n < 0 then '-' :: Nat.toDigits 10 n.natAbs else Nat.toDigits 10 n.natAbs

def decimal (n : Int) : String :=
  String.ofList (decimalChars n)

/-- Digits with an optional sign, at least one digit. -/
def readDecimal? : List Char → Option Int
  | '-' :: digits => (unsigned? digits).map fun n => -(n : Int)
  | '+' :: digits => (unsigned? digits).map fun n => (n : Int)
  | digits => (unsigned? digits).map fun n => (n : Int)
where
  unsigned? (digits : List Char) : Option Nat :=
    if !digits.isEmpty && digits.all Char.isDigit then some (Nat.ofDigitChars 10 digits 0)
    else none

end ProjectDesk.Text
