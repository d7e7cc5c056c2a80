import ProjectDesk.Collaborator.Codec
import ProjectDesk.Collaborator.Error

/-!
Handing in jobs over HTTP: one POST for each, with the job as JSON.
-/

namespace ProjectDesk.Jobs

structure HttpRequest where
  url : String
  authorization : Option String
  body : Json.Value
  deriving Repr

def jobsPath : String := "/api/v1/jobs"

/-- Slashes at the end of the base are dropped. -/
def jobsUrl (base : String) : String :=
  String.ofList (base.toList.reverse.dropWhile (· == '/')).reverse ++ jobsPath

def jobBody (job : JobSubmission) : Json.Value :=
  .object [("job", .object [("name", .string job.name), ("parameters", .object job.parameters),
    ("metadata", .object [("kind", job.kind.toValue)])])]

def isHeaderChar (c : Char) : Bool :=
  c == '\t' || (0x20 ≤ c.toNat && c.toNat != 0x7F)

def afterScheme (url : List Char) : Option (List Char) :=
  if "http://".toList.isPrefixOf url then some (url.drop 7)
  else if "https://".toList.isPrefixOf url then some (url.drop 8)
  else none

/-- Absolute, with a host. -/
def isUsableUrl (url : String) : Bool :=
  ((afterScheme url.toList).bind List.head?).any fun c => c != '/' && c != '?' && c != '#'

/-- Nothing where no request can be made of it: a bad address, or a secret that no header can
carry. -/
def jobRequest? (base : String) (secret : Option String) (job : JobSubmission) :
    Option HttpRequest :=
  if isUsableUrl (jobsUrl base) && secret.all (·.toList.all isHeaderChar) then
    some { url := jobsUrl base, authorization := secret.map ("Harbor-Secret " ++ ·),
           body := jobBody job }
  else none

/-- The exchange gives the status of the reply, if there is one. -/
def submit (exchange : HttpRequest → Option Nat) (base : String) (secret : Option String)
    (job : JobSubmission) : Except CollaboratorError Unit :=
  match jobRequest? base secret job with
  | none => .error (.http none "builder error")
  | some request =>
      match exchange request with
      | none => .error (.http none "error sending request")
      | some status =>
          if status < 400 then .ok ()
          else .error (.http (some status) ("HTTP status " ++ Text.decimal status))

end ProjectDesk.Jobs
