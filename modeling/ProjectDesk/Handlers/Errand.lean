import ProjectDesk.Program
import ProjectDesk.Collaborator.Call
import ProjectDesk.Config.Basic
import ProjectDesk.Dispatch.Handler

/-!
What handlers ask of their surroundings: the configuration as it is now, and calls to other
subsystems.
-/

namespace ProjectDesk

inductive Errand where
  | settings
  | call (c : Call)
  deriving Repr

abbrev Errand.Answer : Errand → Type
  | .settings => Config
  | .call c => c.Answer

def Errand.interface : Interface := ⟨Errand, Errand.Answer⟩

abbrev Task (α : Type) : Type :=
  ExceptT HandlerError (Program Errand.interface) α

namespace Task

def settings : Task Config :=
  ExceptT.lift (Program.query (I := Errand.interface) .settings)

/-- The answer whatever it is, also when the call failed. -/
def attempt (c : Call) : Task c.Answer :=
  ExceptT.lift (Program.query (I := Errand.interface) (.call c))

/-- A call that fails ends the task. -/
def call (c : Call) : Task c.Result :=
  ExceptT.mk do
    match ← Program.query (I := Errand.interface) (.call c) with
    | .ok result => return .ok result
    | .error e => return .error (.collaborator e)

end Task

/-- The handler that carries out a task for every event, asking the world around it. -/
def Handler.ofTask (name : String) (respond : (e : Errand) → σ → e.Answer × σ)
    (task : DomainEvent → Task Unit) : Handler σ :=
  { name
    handle := fun occasion world =>
      let (ending, world) := (task occasion.event).run.run respond world
      (.atOnce ending, world) }

end ProjectDesk
