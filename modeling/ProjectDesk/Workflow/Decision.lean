import ProjectDesk.Workflow.Ask

/-!
Deciding requests. Approving goes forward only: check, make the project, give it a quota, write
the decision, announce it. A failure stops it where it is, and nothing is taken back.
-/

namespace ProjectDesk.Workflow

def requireUndecided (r : Request) : Operation Unit :=
  if r.status = .notDetermined then return ()
  else throw (.conflict (.alreadyDecided r.id r.status))

def missing (id : Int) : RequestError :=
  .notFound (.request (.id id))

/-- Both the caller's copy and the stored request have to be undecided. -/
def requireLiveUndecided (r : Request) : Operation Unit := do
  requireUndecided r
  match ← Operation.statement (.findLive r.id) with
  | some current => requireUndecided current
  | none => throw (missing r.id)

/-- Writes the decision if the request is still live and undecided. -/
def persistDecision (id : Int) (decision : Status) : Operation Unit := do
  let changed ← Operation.statement (.transition id .notDetermined decision)
  if changed = 0 then
    match ← Operation.statement (.findLive id) with
    | some current => throw (.conflict (.decidedMeanwhile id current.status))
    | none => throw (missing id)

def attachQuota (projectId : Int) : Operation Unit := do
  let quota := (← Operation.settings).quota
  if quota.enabledPerProject then
    Operation.call .quota (some projectId)
      (.createQuota (.project projectId) ⟨some quota.storagePerProject⟩)

def approve (operator : String) (r : Request) : Operation Unit := do
  requireLiveUndecided r
  let projectId ← Operation.call .provision none (.createProject r.name r.ownerId)
  attachQuota projectId
  persistDecision r.id .approved
  Operation.announce operator (.approved (.ofRequest r operator))

def reject (operator : String) (r : Request) : Operation Unit := do
  requireLiveUndecided r
  persistDecision r.id .rejected
  Operation.announce operator (.rejected (.ofRequest r operator))

end ProjectDesk.Workflow
