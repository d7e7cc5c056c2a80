import ProjectDesk.Handlers.Errand

/-!
Handing pushed artifacts to the scan policy.
-/

namespace ProjectDesk.Handlers

def scanFault (artifact : Artifact) (e : CollaboratorError) : HandlerError :=
  .failed ("scan artifact " ++ artifact.repositoryName ++ "@" ++ artifact.digest ++ " failed: " ++
    e.message)

def autoScan : DomainEvent → Task Unit
  | .pushArtifact event => do
      match ← Task.attempt (.autoScan event.artifact event.tags) with
      | .ok _ => return ()
      | .error e => throw (scanFault event.artifact e)
  | _ => return ()

end ProjectDesk.Handlers
