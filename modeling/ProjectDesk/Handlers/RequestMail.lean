import ProjectDesk.Handlers.Errand

/-!
Telling the owner of a request by mail how it was decided. Nothing is sent while mail is not
configured, to owners without an address, or about an event of an unknown type.
-/

namespace ProjectDesk.Handlers

def mailTimeout : Time.Span := .ofSeconds 5

/-- Subject and body for a type of event. -/
def mailText (product : String) (owner : DirectoryUser) (event : RequestEvent) :
    Option (String × String) :=
  if event.eventType = Topic.approveRequest then
    some ("[" ++ product ++ "] Approved request",
      "Hey " ++ owner.username ++ "! The project named " ++ event.project ++
        " has been created by request.")
  else if event.eventType = Topic.rejectRequest then
    some ("[" ++ product ++ "] Rejected request",
      "Sorry " ++ owner.username ++ ". Please contact admin " ++ event.operator ++ ".")
  else none

def findOwner (ownerId : Int) : Task DirectoryUser := do
  match ← Task.call (.findUser ownerId) with
  | some owner => return owner
  | none => throw (.collaborator (.failed ("owner " ++ Text.decimal ownerId ++ " not found")))

def mailDecision (event : RequestEvent) : Task Unit := do
  let config ← Task.settings
  if config.email.isConfigured then
    let owner ← findOwner event.ownerId
    unless Text.isBlankText owner.email do
      match mailText config.productName owner event with
      | none => return ()
      | some (subject, body) =>
          Task.call (.sendMail (config.email.smtpSettings mailTimeout)
            { recipients := [owner.email], subject, body })

def requestMail : DomainEvent → Task Unit
  | .approveRequest event | .rejectRequest event => mailDecision event
  | _ => return ()

end ProjectDesk.Handlers
