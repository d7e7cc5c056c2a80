import ProjectDesk.Collaborator.Error

/-!
Why a delivery fails. The publisher never sees these; they are recorded.
-/

namespace ProjectDesk

inductive HandlerError where
  | collaborator (error : CollaboratorError)
  | failed (message : String)
  | timedOut (after : Time.Span)
  /-- The handler broke off, with a text unless it gave none. -/
  | panicked (payload : Option String)
  | cancelled
  | other (text : String) (causes : List String)
  deriving DecidableEq, Repr

namespace HandlerError

def message : HandlerError → String
  | .collaborator error => "Collaborator error: " ++ error.message
  | .failed message => "Handler failed: " ++ message
  | .timedOut after => "Handler timed out after " ++ after.text
  | .panicked payload => "Handler panicked: " ++ payload.getD "non-string panic payload"
  | .cancelled => "Handler cancelled by shutdown"
  | .other text _ => text

end HandlerError
end ProjectDesk
