import ProjectDesk.Event.Basic
import ProjectDesk.Json.Reader
import ProjectDesk.Json.Record
import ProjectDesk.Json.Printer
import ProjectDesk.Time.Reader
import ProjectDesk.Time.Printer

/-!
Events as JSON: an envelope of kind and data. Where the data stands before the kind it has to be
kept until the kind is known, so all of it must then be fit to keep, unknown fields included.
-/

namespace ProjectDesk

open Json

def instantOf (d : Document) : Option Time.Instant :=
  d.string?.bind Time.Instant.read

def instantValue (t : Time.Instant) : Value :=
  .string t.text

namespace Artifact

def fieldNames : List String := ["id", "repository_id", "repository_name", "digest"]

def ofDocument (d : Document) : Option Artifact := do
  let fields ← d.fields? fieldNames
  let id ← fields.signed "id"
  let repositoryId ← fields.signed "repository_id"
  let repositoryName ← fields.string "repository_name"
  let digest ← fields.string "digest"
  some { id, repositoryId, repositoryName, digest }

def toValue (a : Artifact) : Value :=
  .object [("id", .whole a.id), ("repository_id", .whole a.repositoryId),
    ("repository_name", .string a.repositoryName), ("digest", .string a.digest)]

end Artifact

namespace ArtifactEvent

def fieldNames : List String := ["event_type", "artifact", "tags", "operator", "occur_at"]

def ofDocument (d : Document) : Option ArtifactEvent := do
  let fields ← d.fields? fieldNames
  let eventType ← fields.string "event_type"
  let artifact ← fields.required "artifact" Artifact.ofDocument
  let tags ← fields.required "tags" (Document.list? Document.string?)
  let operator ← fields.string "operator"
  let occurAt ← fields.required "occur_at" instantOf
  some { eventType, artifact, tags, operator, occurAt }

def toValue (e : ArtifactEvent) : Value :=
  .object [("event_type", .string e.eventType), ("artifact", e.artifact.toValue),
    ("tags", .strings e.tags), ("operator", .string e.operator),
    ("occur_at", instantValue e.occurAt)]

end ArtifactEvent

namespace RequestEvent

def fieldNames : List String :=
  ["event_type", "request_id", "project", "owner_id", "operator", "occur_at"]

def ofDocument (d : Document) : Option RequestEvent := do
  let fields ← d.fields? fieldNames
  let eventType ← fields.string "event_type"
  let requestId ← fields.signed "request_id"
  let project ← fields.string "project"
  let ownerId ← fields.signed "owner_id"
  let operator ← fields.string "operator"
  let occurAt ← fields.required "occur_at" instantOf
  some { eventType, requestId, project, ownerId, operator, occurAt }

def toValue (e : RequestEvent) : Value :=
  .object [("event_type", .string e.eventType), ("request_id", .whole e.requestId),
    ("project", .string e.project), ("owner_id", .whole e.ownerId),
    ("operator", .string e.operator), ("occur_at", instantValue e.occurAt)]

end RequestEvent

namespace HookTarget

def fieldNames : List String := ["address", "auth_header", "skip_cert_verify"]

def ofDocument (d : Document) : Option HookTarget := do
  let fields ← d.fields? fieldNames
  let address ← fields.string "address"
  let authHeader ← fields.optional "auth_header" Document.string?
  let skipCertVerify ← fields.bool "skip_cert_verify"
  some { address, authHeader, skipCertVerify }

def toValue (t : HookTarget) : Value :=
  .object [("address", .string t.address), ("auth_header", Value.orNull .string t.authHeader),
    ("skip_cert_verify", .bool t.skipCertVerify)]

end HookTarget

namespace HookEvent

def fieldNames : List String := ["hook_type", "target", "payload", "occur_at"]

/-- Two brackets stand open around a payload. -/
def payloadRoom : Nat := Document.depthLimit - 2

def ofDocument (d : Document) : Option HookEvent := do
  let fields ← d.fields? fieldNames
  let hookType ← fields.string "hook_type"
  let target ← fields.required "target" HookTarget.ofDocument
  let payload ← fields.required "payload" (Document.value? payloadRoom)
  let occurAt ← fields.required "occur_at" instantOf
  some { hookType, target, payload, occurAt }

def toValue (e : HookEvent) : Value :=
  .object [("hook_type", .string e.hookType), ("target", e.target.toValue),
    ("payload", e.payload), ("occur_at", instantValue e.occurAt)]

end HookEvent

namespace DomainEvent

def fieldNames : List String := ["kind", "data"]

def ofData (kind : EventKind) (data : Document) : Option DomainEvent :=
  match kind with
  | .pullArtifact => (ArtifactEvent.ofDocument data).map .pullArtifact
  | .pushArtifact => (ArtifactEvent.ofDocument data).map .pushArtifact
  | .approveRequest => (RequestEvent.ofDocument data).map .approveRequest
  | .rejectRequest => (RequestEvent.ofDocument data).map .rejectRequest
  | .hook => (HookEvent.ofDocument data).map .hook

/-- The data is read where it stands, or can be put aside until the kind is known. -/
def dataReadable (fields : Fields) (data : Document) : Bool :=
  match fields.given with
  | ("data", _) :: _ => data.isKeepable (Document.depthLimit - 1)
  | _ => true

def ofDocument (d : Document) : Option DomainEvent := do
  let fields ← d.fields? fieldNames
  let kind ← fields.required "kind" fun d => d.name?.bind EventKind.ofName?
  let data ← fields.get? "data"
  if dataReadable fields data then ofData kind data else none

def dataValue : DomainEvent → Value
  | .pullArtifact e | .pushArtifact e => e.toValue
  | .approveRequest e | .rejectRequest e => e.toValue
  | .hook e => e.toValue

def toValue (e : DomainEvent) : Value :=
  .object [("kind", .string e.kind.name), ("data", e.dataValue)]

def read (text : String) : Option DomainEvent :=
  (Json.read text).bind ofDocument

end DomainEvent
end ProjectDesk
