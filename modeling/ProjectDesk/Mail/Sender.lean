import ProjectDesk.Collaborator.Basic
import ProjectDesk.Collaborator.Error
import ProjectDesk.Mail.Address

/-!
Sending mail. The addresses are looked at before anything goes out: the sender's first, then
that there are recipients at all, then theirs in order.
-/

namespace ProjectDesk.Mail

/-- What the relay made of a message. -/
inductive RelayAnswer where
  | accepted
  | refused (detail : String)
  /-- Nothing was heard within the timeout. -/
  | silent
  deriving DecidableEq, Repr

structure Envelope where
  sender : Address
  recipients : List Address
  deriving DecidableEq, Repr

def invalidSender (e : AddressError) : CollaboratorError :=
  .failed ("Invalid from address: " ++ e.message)

def invalidRecipient (recipient : String) (e : AddressError) : CollaboratorError :=
  .failed ("Invalid to address " ++ recipient ++ ": " ++ e.message)

def readRecipients : List String → Except CollaboratorError (List Address)
  | [] => .ok []
  | recipient :: rest =>
      match Address.read recipient with
      | .error e => .error (invalidRecipient recipient e)
      | .ok address => (readRecipients rest).map (address :: ·)

def envelope (settings : SmtpSettings) (message : MailMessage) :
    Except CollaboratorError Envelope :=
  match Address.read settings.sender with
  | .error e => .error (invalidSender e)
  | .ok sender =>
      if message.recipients.isEmpty then .error (.failed "Mail has no recipients")
      else (readRecipients message.recipients).map (⟨sender, ·⟩)

def send (relay : SmtpSettings → Envelope → MailMessage → RelayAnswer) (settings : SmtpSettings)
    (message : MailMessage) : Except CollaboratorError Unit :=
  match envelope settings message with
  | .error e => .error e
  | .ok envelope =>
      match relay settings envelope message with
      | .accepted => .ok ()
      | .refused detail => .error (.failed ("Failed to send email: " ++ detail))
      | .silent => .error (.timeout settings.timeout)

end ProjectDesk.Mail
