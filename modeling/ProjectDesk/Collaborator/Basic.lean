import ProjectDesk.Event.Basic
import ProjectDesk.Time.Span
import ProjectDesk.Text.Decimal

/-!
What is handed to the subsystems around the desk and what they hand back: users, quotas, mail
and jobs.
-/

namespace ProjectDesk

structure DirectoryUser where
  id : Int
  username : String
  email : String
  deriving DecidableEq, Repr

inductive ReferenceKind where
  | project
  deriving DecidableEq, Repr

namespace ReferenceKind

def name : ReferenceKind → String
  | .project => "project"

def ofName? (s : String) : Option ReferenceKind :=
  if s = "project" then some .project else none

end ReferenceKind

/-- What a quota is attached to. -/
structure QuotaReference where
  kind : ReferenceKind
  id : Int
  deriving DecidableEq, Repr

namespace QuotaReference

def project (id : Int) : QuotaReference := ⟨.project, id⟩

def text (r : QuotaReference) : String :=
  r.kind.name ++ "/" ++ Text.decimal r.id

end QuotaReference

/-- Hard limits; -1 stands for unlimited, and what is not listed has none. -/
structure ResourceLimits where
  storage : Option Int
  deriving DecidableEq, Repr

/-- What one mail session needs to know. -/
structure SmtpSettings where
  host : String
  port : Nat
  identity : String
  username : String
  password : String
  timeout : Time.Span
  useSsl : Bool
  insecureSkipVerify : Bool
  sender : String
  deriving DecidableEq, Repr

namespace SmtpSettings

def address (s : SmtpSettings) : String :=
  s.host ++ ":" ++ Text.decimal s.port

end SmtpSettings

structure MailMessage where
  recipients : List String
  subject : String
  body : String
  deriving DecidableEq, Repr

inductive JobKind where
  | generic
  | periodic
  deriving DecidableEq, Repr

namespace JobKind

def name : JobKind → String
  | .generic => "Generic"
  | .periodic => "Periodic"

def ofName? (s : String) : Option JobKind :=
  [generic, periodic].find? (·.name == s)

end JobKind

/-- A job for the job service. -/
structure JobSubmission where
  name : String
  kind : JobKind
  parameters : List (String × Json.Value)
  deriving Repr

end ProjectDesk
