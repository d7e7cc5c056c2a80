import ProjectDesk.Dispatch.Dispatcher
import ProjectDesk.Rehearsal.Script
import ProjectDesk.Workflow.Decision
import ProjectDesk.Workflow.Lifecycle

/-!
A whole desk in rehearsal: a database, a dispatcher, and the other subsystems played from a
script. While a project or a quota is being made, somebody else may interfere with the store.
-/

namespace ProjectDesk.Rehearsal

/-- What somebody else does to the store, once. -/
inductive Interference where
  | delete (id : Int)
  | transition (id : Int) (before after : Status)
  deriving DecidableEq, Repr

namespace Interference

def statement : Interference → Statement
  | .delete id => .softDelete id
  | .transition id before after => .transition id before after

end Interference

structure Desk (σ : Type) where
  database : Database := {}
  now : Time.Instant
  scene : Scene := {}
  onProvision : Option Interference := none
  onQuota : Option Interference := none
  dispatcher : Dispatcher σ

namespace Desk

variable {σ α : Type}

def perform (s : Statement) (d : Desk σ) : s.Answer × Desk σ :=
  let (answer, database) := d.database.perform d.now s
  (answer, { d with database })

def interfere (i : Option Interference) (d : Desk σ) : Desk σ :=
  match i with
  | none => d
  | some i => (d.perform i.statement).2

def isOk : Except ε α → Bool
  | .ok _ => true
  | .error _ => false

/-- The interference comes while the call is under way, and only if the call goes well. -/
def interrupted (c : Call) (d : Desk σ) : Desk σ :=
  match c with
  | .createProject _ _ => { d.interfere d.onProvision with onProvision := none }
  | .createQuota _ _ => { d.interfere d.onQuota with onQuota := none }
  | _ => d

def respond : (q : Ask) → Desk σ → q.Answer × Desk σ
  | .statement s, d => d.perform s
  | .settings, d => (d.scene.config, d)
  | .call c, d =>
      let (answer, scene) := d.scene.call c
      let d := { d with scene }
      (answer, if isOk answer then d.interrupted c else d)
  | .announce operator a, d =>
      let (scheduled, dispatcher) := d.dispatcher.announce operator a d.now
      (scheduled, { d with dispatcher })

/-- Carries out an operation; deliveries are scheduled but not yet made. -/
def operate (operation : Operation α) (d : Desk σ) : Except RequestError α × Desk σ :=
  operation.run.run respond d

/-- Waits for every delivery that has been scheduled. -/
def settle (d : Desk σ) : Desk σ :=
  { d with dispatcher := d.dispatcher.drain }

/-- Sets the times of a stored request. -/
def pinTimes (id : Int) (createdAt updatedAt : Time.Stamp) (d : Desk σ) : Desk σ :=
  let (_, store) := d.database.store.update (·.id == id) fun r => { r with createdAt, updatedAt }
  { d with database := { d.database with store } }

def closeStore (d : Desk σ) : Desk σ :=
  { d with database := { d.database with closed := true } }

def shutDown (d : Desk σ) : Desk σ :=
  { d with dispatcher := d.dispatcher.shutDown }

/-- The same change to the scene of the operations and to that of the handlers. -/
def inBothScenes (change : Scene → Scene) (d : Desk Scene) : Desk Scene :=
  { d with
    scene := change d.scene
    dispatcher := d.dispatcher.withWorld (change d.dispatcher.world) }

def configured (config : Config) (d : Desk Scene) : Desk Scene :=
  d.inBothScenes fun scene => { scene with config }

/-- Forgets the calls made and the events heard so far. -/
def forgetful (d : Desk Scene) : Desk Scene :=
  d.inBothScenes fun scene => { scene with calls := [], heard := [] }

end Desk
end ProjectDesk.Rehearsal
