import ProjectDesk.Time.Stamp

/-!
Requests for new projects. A request is decided once; deleting it leaves a tombstone.
-/

namespace ProjectDesk

inductive Status where
  | notDetermined
  | approved
  | rejected
  deriving DecidableEq, Repr

namespace Status

def name : Status → String
  | .notDetermined => "not_determined"
  | .approved => "approved"
  | .rejected => "rejected"

def ofName? (s : String) : Option Status :=
  [notDetermined, approved, rejected].find? (·.name == s)

/-- A decision, from which there is no way on. -/
def isTerminal (s : Status) : Bool :=
  s != .notDetermined

end Status

structure Request where
  id : Int
  ownerId : Int
  /-- The owner's display name as it was when last written. -/
  ownerName : String
  name : String
  status : Status
  deleted : Bool
  createdAt : Time.Stamp
  updatedAt : Time.Stamp
  deriving DecidableEq, Repr

/-- What a new request is made from. -/
structure Draft where
  ownerId : Int
  ownerName : String
  name : String
  deriving DecidableEq, Repr

end ProjectDesk
