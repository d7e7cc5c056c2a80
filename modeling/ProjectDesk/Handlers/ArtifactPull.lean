import ProjectDesk.Handlers.Errand

/-!
Keeping count of pulls. The pull time and the pull count are brought up to date independently of
each other, and neither failure is a failure of the delivery.
-/

namespace ProjectDesk.Handlers

def pulledTag (event : ArtifactEvent) : Task (Option Int) :=
  match event.tags with
  | [] => return none
  | tag :: _ => do
      match ← Task.attempt (.findTag event.artifact.id tag) with
      | .ok tagId => return tagId
      | .error _ => return none

def recordPullTime (event : ArtifactEvent) : Task Unit := do
  let tagId ← pulledTag event
  let _ ← Task.attempt (.updatePullTime event.artifact.id tagId event.occurAt)

def recordPullCount (event : ArtifactEvent) : Task Unit := do
  let _ ← Task.attempt (.addPullCount event.artifact.repositoryId)

def artifactPull : DomainEvent → Task Unit
  | .pullArtifact event => do
      let switches := (← Task.settings).artifactEvents
      unless switches.pullTimeDisabled do recordPullTime event
      unless switches.pullCountDisabled do recordPullCount event
  | _ => return ()

end ProjectDesk.Handlers
