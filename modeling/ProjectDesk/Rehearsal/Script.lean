import ProjectDesk.Collaborator.Call
import ProjectDesk.Config.Basic
import ProjectDesk.Handlers.Errand

/-!
The other subsystems, played from a script: who is in the directory, which tags there are, which
id the next project gets, and which calls fail. Every call is noted, failing ones too.
-/

namespace ProjectDesk.Rehearsal

structure Faults where
  provision : Option CollaboratorError := none
  quota : Option CollaboratorError := none
  users : Option CollaboratorError := none
  mail : Option CollaboratorError := none
  jobs : Option CollaboratorError := none
  tags : Option CollaboratorError := none
  pullTime : Option CollaboratorError := none
  pullCount : Option CollaboratorError := none
  scan : Option CollaboratorError := none
  deriving DecidableEq, Repr

structure Script where
  users : List DirectoryUser := []
  tags : List (String × Int) := []
  nextProject : Int := 100
  faults : Faults := {}
  deriving DecidableEq, Repr

namespace Script

def fault (s : Script) : Call → Option CollaboratorError
  | .createProject _ _ => s.faults.provision
  | .createQuota _ _ => s.faults.quota
  | .findUser _ => s.faults.users
  | .sendMail _ _ => s.faults.mail
  | .submitJob _ => s.faults.jobs
  | .findTag _ _ => s.faults.tags
  | .updatePullTime _ _ _ => s.faults.pullTime
  | .addPullCount _ => s.faults.pullCount
  | .autoScan _ _ => s.faults.scan

def result (s : Script) : (c : Call) → c.Result × Script
  | .createProject _ _ => (s.nextProject, { s with nextProject := s.nextProject + 1 })
  | .findUser id => (s.users.find? (·.id == id), s)
  | .findTag _ tag => (s.tags.lookup tag, s)
  | .createQuota _ _ | .sendMail _ _ | .submitJob _ | .updatePullTime _ _ _ | .addPullCount _
  | .autoScan _ _ => ((), s)

def answer (s : Script) (c : Call) : c.Answer × Script :=
  match s.fault c with
  | some e => (.error e, s)
  | none =>
      let (result, s) := s.result c
      (.ok result, s)

end Script

/-- The configuration in force, the script, the calls made so far, and the events heard of. -/
structure Scene where
  config : Config := {}
  script : Script := {}
  calls : List Call := []
  heard : List Occasion := []
  deriving Repr

/-- Ways out of the rehearsal: mail and jobs that are sent for good, and then not noted. -/
structure Outlets where
  mail : Option (SmtpSettings → MailMessage → Except CollaboratorError Unit) := none
  jobs : Option (JobSubmission → Except CollaboratorError Unit) := none

namespace Scene

def call (scene : Scene) (c : Call) : c.Answer × Scene :=
  let (answer, script) := scene.script.answer c
  (answer, { scene with script, calls := scene.calls ++ [c] })

def callOut (outlets : Outlets) (scene : Scene) : (c : Call) → c.Answer × Scene
  | .sendMail settings message =>
      match outlets.mail with
      | some send => (send settings message, scene)
      | none => scene.call (.sendMail settings message)
  | .submitJob job =>
      match outlets.jobs with
      | some submit => (submit job, scene)
      | none => scene.call (.submitJob job)
  | c => scene.call c

def errand (outlets : Outlets) : (e : Errand) → Scene → e.Answer × Scene
  | .settings, scene => (scene.config, scene)
  | .call c, scene => scene.callOut outlets c

end Scene

/-- Keeps what it hears, and nothing else. -/
def recorder : Handler Scene :=
  { name := "recorder"
    handle := fun occasion scene =>
      (.atOnce (.ok ()), { scene with heard := scene.heard ++ [occasion] }) }

end ProjectDesk.Rehearsal
