import ProjectDesk.Store.Error
import ProjectDesk.Time.Span

/-!
What can go wrong when another subsystem is called.
-/

namespace ProjectDesk

inductive CollaboratorError where
  | failed (message : String)
  | timeout (after : Time.Span)
  /-- The status is there when the other side did reply. -/
  | http (status : Option Nat) (detail : String)
  | database (error : StoreError)
  /-- Only the outermost text is shown, not the causes beneath it. -/
  | other (text : String) (causes : List String)
  deriving DecidableEq, Repr

namespace CollaboratorError

def message : CollaboratorError → String
  | .failed message => message
  | .timeout after => "Timed out after " ++ after.text
  | .http _ detail => "HTTP error: " ++ detail
  | .database error => "Database error: " ++ error.message
  | .other text _ => text

end CollaboratorError
end ProjectDesk
