import ProjectDesk.Json.Value
import ProjectDesk.Time.Instant

/-!
The events that are published: artifacts pulled and pushed, requests decided, and hooks to be
forwarded. Each kind has the topic it is normally published on.
-/

namespace ProjectDesk

structure Artifact where
  id : Int
  repositoryId : Int
  repositoryName : String
  digest : String
  deriving DecidableEq, Repr

structure ArtifactEvent where
  eventType : String
  artifact : Artifact
  /-- The tags by which the artifact was addressed; the first one counts. -/
  tags : List String
  operator : String
  occurAt : Time.Instant
  deriving DecidableEq, Repr

structure RequestEvent where
  eventType : String
  requestId : Int
  /-- The name of the project that was asked for. -/
  project : String
  ownerId : Int
  operator : String
  occurAt : Time.Instant
  deriving DecidableEq, Repr

structure HookTarget where
  address : String
  authHeader : Option String
  skipCertVerify : Bool
  deriving DecidableEq, Repr

structure HookEvent where
  hookType : String
  target : HookTarget
  payload : Json.Value
  occurAt : Time.Instant
  deriving Repr

inductive DomainEvent where
  | pullArtifact (event : ArtifactEvent)
  | pushArtifact (event : ArtifactEvent)
  | approveRequest (event : RequestEvent)
  | rejectRequest (event : RequestEvent)
  | hook (event : HookEvent)
  deriving Repr

inductive EventKind where
  | pullArtifact
  | pushArtifact
  | approveRequest
  | rejectRequest
  | hook
  deriving DecidableEq, Repr

namespace Topic

def pullArtifact : String := "PULL_ARTIFACT"

def pushArtifact : String := "PUSH_ARTIFACT"

def approveRequest : String := "APPROVE_REQUEST"

def rejectRequest : String := "REJECT_REQUEST"

def webhook : String := "WEBHOOK"

end Topic

namespace EventKind

def name : EventKind → String
  | .pullArtifact => "pull_artifact"
  | .pushArtifact => "push_artifact"
  | .approveRequest => "approve_request"
  | .rejectRequest => "reject_request"
  | .hook => "hook"

def topic : EventKind → String
  | .pullArtifact => Topic.pullArtifact
  | .pushArtifact => Topic.pushArtifact
  | .approveRequest => Topic.approveRequest
  | .rejectRequest => Topic.rejectRequest
  | .hook => Topic.webhook

def ofName? (s : String) : Option EventKind :=
  [pullArtifact, pushArtifact, approveRequest, rejectRequest, hook].find? (·.name == s)

end EventKind

namespace DomainEvent

def kind : DomainEvent → EventKind
  | .pullArtifact _ => .pullArtifact
  | .pushArtifact _ => .pushArtifact
  | .approveRequest _ => .approveRequest
  | .rejectRequest _ => .rejectRequest
  | .hook _ => .hook

def occurAt : DomainEvent → Time.Instant
  | .pullArtifact e | .pushArtifact e => e.occurAt
  | .approveRequest e | .rejectRequest e => e.occurAt
  | .hook e => e.occurAt

end DomainEvent
end ProjectDesk
