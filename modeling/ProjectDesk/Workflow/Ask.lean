import ProjectDesk.Program
import ProjectDesk.Collaborator.Call
import ProjectDesk.Config.Basic
import ProjectDesk.Event.Announcement
import ProjectDesk.Request.Error
import ProjectDesk.Store.Statement

/-!
What the operations on requests ask of their surroundings: a statement of the store, a call to
another subsystem, the configuration as it is now, or that an event be announced. Between any
two questions other operations may have had their turn.
-/

namespace ProjectDesk

inductive Ask where
  | statement (s : Statement)
  | call (c : Call)
  | settings
  /-- On behalf of an operator; the answer tells how many deliveries were scheduled. -/
  | announce (operator : String) (a : Announcement)
  deriving Repr

abbrev Ask.Answer : Ask → Type
  | .statement s => s.Answer
  | .call c => c.Answer
  | .settings => Config
  | .announce _ _ => Nat

def Ask.interface : Interface := ⟨Ask, Ask.Answer⟩

abbrev Operation (α : Type) : Type :=
  ExceptT RequestError (Program Ask.interface) α

namespace Operation

def query (q : Ask) : Operation q.Answer :=
  ExceptT.lift (Program.query (I := Ask.interface) q)

def statement (s : Statement) : Operation s.Result := do
  match ← query (.statement s) with
  | .ok result => return result
  | .error e => throw (.database e)

/-- A call whose failure ends the operation at the given step. -/
def call (step : WorkflowStep) (projectId : Option Int) (c : Call) : Operation c.Result := do
  match ← query (.call c) with
  | .ok result => return result
  | .error e => throw (.dependency step projectId e)

def settings : Operation Config :=
  query .settings

/-- For how many handlers deliveries were scheduled makes no difference. -/
def announce (operator : String) (a : Announcement) : Operation Unit := do
  let _ ← query (.announce operator a)
  return ()

end Operation
end ProjectDesk
