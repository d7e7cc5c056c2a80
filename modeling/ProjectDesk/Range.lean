/-!
Ranges of whole numbers that a field can hold.
-/

namespace ProjectDesk

structure Range where
  least : Int
  greatest : Int
  deriving DecidableEq, Repr

namespace Range

def has (r : Range) (n : Int) : Bool :=
  r.least ≤ n && n ≤ r.greatest

def signed64 : Range := ⟨-9223372036854775808, 9223372036854775807⟩

def unsigned64 : Range := ⟨0, 18446744073709551615⟩

def unsigned16 : Range := ⟨0, 65535⟩

end Range
end ProjectDesk
