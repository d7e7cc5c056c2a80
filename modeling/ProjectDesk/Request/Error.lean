import ProjectDesk.Collaborator.Error
import ProjectDesk.Request.Basic
import ProjectDesk.Request.Name
import ProjectDesk.Request.Ref

/-!
Why an operation on requests fails, and how that is told to the caller.
-/

namespace ProjectDesk

inductive ValidationFault where
  | name (fault : NameFault)
  | ownerNotPositive (ownerId : Int)
  /-- No name was given to look for. -/
  | nameRequired
  | stated (text : String)
  deriving DecidableEq, Repr

namespace ValidationFault

def message : ValidationFault → String
  | .name fault => fault.message
  | .ownerNotPositive ownerId => "owner id must be positive, got " ++ Text.decimal ownerId
  | .nameRequired => "request name required"
  | .stated text => text

end ValidationFault

inductive ConflictCause where
  | nameTaken (name : String)
  | alreadyDecided (id : Int) (status : Status)
  | decidedMeanwhile (id : Int) (status : Status)
  | stated (text : String)
  deriving DecidableEq, Repr

namespace ConflictCause

def message : ConflictCause → String
  | .nameTaken name => "a request named " ++ Text.quoted name ++ " already exists"
  | .alreadyDecided id status => "request " ++ Text.decimal id ++ " is already " ++ status.name
  | .decidedMeanwhile id status =>
      "request " ++ Text.decimal id ++ " was concurrently set to " ++ status.name
  | .stated text => text

end ConflictCause

inductive Missing where
  | request (ref : RequestRef)
  | stated (text : String)
  deriving DecidableEq, Repr

namespace Missing

def message : Missing → String
  | .request (.id id) => "request " ++ Text.decimal id
  | .request (.name name) => "request " ++ Text.quoted name
  | .stated text => text

end Missing

/-- The call that an operation was making when another subsystem failed. -/
inductive WorkflowStep where
  | provision
  | quota
  | loadOwner
  deriving DecidableEq, Repr

namespace WorkflowStep

def name : WorkflowStep → String
  | .provision => "provision"
  | .quota => "quota"
  | .loadOwner => "load_owner"

def ofName? (s : String) : Option WorkflowStep :=
  [provision, quota, loadOwner].find? (·.name == s)

end WorkflowStep

inductive RequestError where
  | validation (fault : ValidationFault)
  | conflict (cause : ConflictCause)
  | notFound (missing : Missing)
  /-- The project is there when one had already been made and is now left without an owner. -/
  | dependency (step : WorkflowStep) (projectId : Option Int) (source : CollaboratorError)
  | database (error : StoreError)
  deriving DecidableEq, Repr

namespace RequestError

def leftInPlace : Option Int → String
  | none => ""
  | some id => " (project " ++ Text.decimal id ++ " left in place)"

def message : RequestError → String
  | .validation fault => "Validation error: " ++ fault.message
  | .conflict cause => "Conflict: " ++ cause.message
  | .notFound missing => "Request not found: " ++ missing.message
  | .dependency step projectId source =>
      step.name ++ " failed" ++ leftInPlace projectId ++ ": " ++ source.message
  | .database error => error.message

/-- The caller's mistake, which trying again does not mend. -/
def isClientError : RequestError → Bool
  | .validation _ | .conflict _ | .notFound _ => true
  | .dependency _ _ _ | .database _ => false

/-- The error beneath this one. -/
def cause : RequestError → Option CollaboratorError
  | .dependency _ _ source => some source
  | _ => none

end RequestError
end ProjectDesk
