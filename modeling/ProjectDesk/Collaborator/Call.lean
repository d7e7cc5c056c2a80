import ProjectDesk.Collaborator.Basic
import ProjectDesk.Collaborator.Error

/-!
The calls that are made to other subsystems, and what each answers when it does not fail.
-/

namespace ProjectDesk

inductive Call where
  | createProject (name : String) (ownerId : Int)
  | createQuota (reference : QuotaReference) (limits : ResourceLimits)
  | findUser (id : Int)
  | sendMail (settings : SmtpSettings) (message : MailMessage)
  | submitJob (job : JobSubmission)
  | findTag (artifactId : Int) (tag : String)
  | updatePullTime (artifactId : Int) (tagId : Option Int) (pulledAt : Time.Instant)
  | addPullCount (repositoryId : Int)
  | autoScan (artifact : Artifact) (tags : List String)
  deriving Repr

namespace Call

abbrev Result : Call → Type
  | .createProject _ _ => Int
  | .findUser _ => Option DirectoryUser
  | .findTag _ _ => Option Int
  | .createQuota _ _ | .sendMail _ _ | .submitJob _ | .updatePullTime _ _ _
  | .addPullCount _ | .autoScan _ _ => Unit

abbrev Answer (c : Call) : Type :=
  Except CollaboratorError c.Result

end Call
end ProjectDesk
