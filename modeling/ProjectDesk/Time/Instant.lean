import ProjectDesk.Time.Calendar

/-!
Instants, held as date and time of day in UTC. The second 60 is a leap second of its own, in
whatever minute it was given.
-/

namespace ProjectDesk.Time

structure Instant where
  date : Date
  hour : Nat
  minute : Nat
  second : Nat
  nanos : Nat
  deriving DecidableEq, Repr

namespace Instant

/-- The years that instants can lie in. -/
def firstYear : Int := -262143

def lastYear : Int := 262142

def isValid (t : Instant) : Bool :=
  firstYear ≤ t.date.year && t.date.year ≤ lastYear && t.date.isValid &&
    t.hour < 24 && t.minute < 60 && t.second ≤ 60 && t.nanos < 1000000000

end Instant
end ProjectDesk.Time
