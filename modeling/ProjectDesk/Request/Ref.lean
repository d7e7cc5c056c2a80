import ProjectDesk.Range
import ProjectDesk.Text.Decimal

/-!
Addressing a request by id or by name.
-/

namespace ProjectDesk

inductive RequestRef where
  | id (n : Int)
  | name (s : String)
  deriving DecidableEq, Repr

/-- A path segment that reads as a 64-bit number is an id, unless it is known to be a name. -/
def RequestRef.ofSegment (segment : String) (isResourceName : Bool) : RequestRef :=
  if isResourceName then .name segment
  else
    match Text.readDecimal? segment.toList with
    | some n => if Range.signed64.has n then .id n else .name segment
    | none => .name segment

end ProjectDesk
