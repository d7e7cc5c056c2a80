import ProjectDesk.Handlers.Errand
import ProjectDesk.Json.Printer

/-!
Forwarding hooks to the job service, which delivers them.
-/

namespace ProjectDesk.Handlers

def emailJob : String := "EMAIL"

/-- The payload travels as text; a target without an authorization header gets an empty one. -/
def hookJob (jobName : String) (event : HookEvent) : JobSubmission :=
  { name := jobName
    kind := .generic
    parameters :=
      [("payload", .string event.payload.compact), ("address", .string event.target.address),
        ("auth_header", .string (event.target.authHeader.getD "")),
        ("skip_cert_verify", .bool event.target.skipCertVerify)] }

def webhookJob (jobName : String) : DomainEvent → Task Unit
  | .hook event => Task.call (.submitJob (hookJob jobName event))
  | other => throw (.failed ("invalid hook event: " ++ other.kind.name))

end ProjectDesk.Handlers
