import ProjectDesk.Collaborator.Basic
import ProjectDesk.Text.Blank
import ProjectDesk.Text.Decimal

/-!
The configuration of the desk, its defaults, and the check that it passes before it is used.
-/

namespace ProjectDesk

structure EmailConfig where
  host : String := ""
  port : Nat := 25
  identity : String := ""
  username : String := ""
  password : String := ""
  sender : String := ""
  ssl : Bool := false
  insecure : Bool := false
  deriving DecidableEq, Repr

structure QuotaConfig where
  enabledPerProject : Bool := true
  /-- In bytes; -1 stands for unlimited. -/
  storagePerProject : Int := -1
  deriving DecidableEq, Repr

structure ArtifactEventConfig where
  pullTimeDisabled : Bool := false
  pullCountDisabled : Bool := false
  deriving DecidableEq, Repr

structure DispatcherConfig where
  handlerTimeoutSecs : Nat := 60
  maxConcurrentHandlers : Nat := 32
  /-- How many failed deliveries are kept. -/
  failureHistory : Nat := 1000
  deriving DecidableEq, Repr

structure JobServiceConfig where
  /-- Without a base URL webhooks are not forwarded. -/
  url : Option String := none
  secret : Option String := none
  deriving DecidableEq, Repr

structure Config where
  configVersion : String := "v1"
  productName : String := "HyperRegistry"
  email : EmailConfig := {}
  quota : QuotaConfig := {}
  artifactEvents : ArtifactEventConfig := {}
  dispatcher : DispatcherConfig := {}
  jobService : JobServiceConfig := {}
  deriving DecidableEq, Repr

namespace EmailConfig

/-- Mail is only sent when there is a host to send it to and a sender to name. -/
def isConfigured (c : EmailConfig) : Bool :=
  !Text.isBlankText c.host && !Text.isBlankText c.sender

def smtpSettings (c : EmailConfig) (timeout : Time.Span) : SmtpSettings :=
  { host := Text.trim c.host, port := c.port, identity := c.identity, username := c.username,
    password := c.password, timeout := timeout, useSsl := c.ssl,
    insecureSkipVerify := c.insecure, sender := c.sender }

end EmailConfig

namespace DispatcherConfig

def handlerTimeout (c : DispatcherConfig) : Time.Span :=
  .ofSeconds c.handlerTimeoutSecs

end DispatcherConfig

inductive ConfigFault where
  | noConcurrency
  | noTimeout
  | noMailPort
  | storageBelowUnlimited (storage : Int)
  deriving DecidableEq, Repr

namespace ConfigFault

def message : ConfigFault → String
  | .noConcurrency => "Validation error: dispatcher.max_concurrent_handlers must be at least 1"
  | .noTimeout => "Validation error: dispatcher.handler_timeout_secs must be at least 1"
  | .noMailPort => "Validation error: email.port must be set when SMTP is configured"
  | .storageBelowUnlimited storage =>
      "Validation error: quota.storage_per_project must be -1 or a byte count, got " ++
        Text.decimal storage

end ConfigFault

namespace Config

def check (c : Config) : Except ConfigFault Unit :=
  if c.dispatcher.maxConcurrentHandlers = 0 then .error .noConcurrency
  else if c.dispatcher.handlerTimeoutSecs = 0 then .error .noTimeout
  else if c.email.isConfigured && c.email.port == 0 then .error .noMailPort
  else if c.quota.storagePerProject < -1 then
    .error (.storageBelowUnlimited c.quota.storagePerProject)
  else .ok ()

end Config
end ProjectDesk
