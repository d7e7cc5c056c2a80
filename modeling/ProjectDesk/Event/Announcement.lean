import ProjectDesk.Event.Basic
import ProjectDesk.Request.Basic

/-!
Announcements of what was done, from which events are made: the topic follows from what is
announced, and the time is added when it is published.
-/

namespace ProjectDesk

/-- A decision as it is announced. -/
structure DecisionNote where
  requestId : Int
  project : String
  ownerId : Int
  operator : String
  deriving DecidableEq, Repr

structure ArtifactNote where
  artifact : Artifact
  tags : List String
  operator : String
  deriving DecidableEq, Repr

inductive Announcement where
  | approved (note : DecisionNote)
  | rejected (note : DecisionNote)
  | pulled (note : ArtifactNote)
  | pushed (note : ArtifactNote)
  deriving DecidableEq, Repr

namespace DecisionNote

def ofRequest (r : Request) (operator : String) : DecisionNote :=
  ⟨r.id, r.name, r.ownerId, operator⟩

def event (note : DecisionNote) (topic : String) (now : Time.Instant) : RequestEvent :=
  { eventType := topic, requestId := note.requestId, project := note.project,
    ownerId := note.ownerId, operator := note.operator, occurAt := now }

end DecisionNote

namespace ArtifactNote

def event (note : ArtifactNote) (topic : String) (now : Time.Instant) : ArtifactEvent :=
  { eventType := topic, artifact := note.artifact, tags := note.tags, operator := note.operator,
    occurAt := now }

end ArtifactNote

namespace Announcement

def kind : Announcement → EventKind
  | .approved _ => .approveRequest
  | .rejected _ => .rejectRequest
  | .pulled _ => .pullArtifact
  | .pushed _ => .pushArtifact

def topic (a : Announcement) : String :=
  a.kind.topic

def event (a : Announcement) (now : Time.Instant) : DomainEvent :=
  match a with
  | .approved note => .approveRequest (note.event a.topic now)
  | .rejected note => .rejectRequest (note.event a.topic now)
  | .pulled note => .pullArtifact (note.event a.topic now)
  | .pushed note => .pushArtifact (note.event a.topic now)

end Announcement
end ProjectDesk
