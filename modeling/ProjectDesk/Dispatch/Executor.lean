/-!
Background work in a limited number of slots. A task that names a gate first takes the gate,
then a slot; both are given out in the order of asking, and a task that waits for its gate takes
no slot. Whoever ends hands its slot to the first who waits for one, and then its gate. Those
who were handed something, and those who are new, move on one after the other as they are
called.
-/

namespace ProjectDesk

/-- A task that was accepted, with the number of its acceptance. -/
structure Ticket (τ : Type) where
  number : Nat
  gate : Option Nat
  task : τ

/-- How far a task has come when it is called. -/
inductive Stage where
  /-- It has not asked for anything yet. -/
  | fresh
  /-- It was handed its gate. -/
  | gated
  /-- It was handed a slot, and its gate before that if it needs one. -/
  | slotted
  deriving DecidableEq, Repr

structure Called (τ : Type) where
  ticket : Ticket τ
  stage : Stage

/-- A task that has its slot, with the moment at which it ends and how. -/
structure Running (τ ρ : Type) where
  ticket : Ticket τ
  due : Nat
  result : ρ

structure Executor (τ ρ : Type) where
  slots : Nat
  issued : Nat := 0
  shut : Bool := false
  /-- Those who can move on, in the order in which they will. -/
  called : List (Called τ) := []
  /-- Waiting for their gates. -/
  gateLine : List (Ticket τ) := []
  /-- In possession of their gates, if any, and waiting for a slot. -/
  slotLine : List (Ticket τ) := []
  /-- In the order of their starts. -/
  running : List (Running τ ρ) := []

inductive Refusal where
  | shutDown
  | noRuntime
  deriving DecidableEq, Repr

namespace Refusal

def message : Refusal → String
  | .shutDown => "Background executor is shut down"
  | .noRuntime => "No tokio runtime is available to run background work"

end Refusal

namespace Executor

variable {τ ρ : Type}

/-- The greatest number of slots there can be. -/
def slotLimit : Nat := 2305843009213693951

/-- At least one slot; nothing where there would be too many. -/
def new? (maxConcurrency : Nat) : Option (Executor τ ρ) :=
  let slots := max maxConcurrency 1
  if slots ≤ slotLimit then some { slots } else none

/-- Tasks accepted and not yet started. -/
def queued (x : Executor τ ρ) : List (Ticket τ) :=
  x.slotLine ++ x.gateLine ++ x.called.map (·.ticket)

/-- Tasks accepted and not yet ended. -/
def inFlight (x : Executor τ ρ) : Nat :=
  x.queued.length + x.running.length

def call (t : Ticket τ) (stage : Stage) (x : Executor τ ρ) : Executor τ ρ :=
  { x with called := x.called ++ [⟨t, stage⟩] }

/-- Work can only be accepted where there is a runtime to run it. -/
def submit (gate : Option Nat) (task : τ) (inRuntime : Bool) (x : Executor τ ρ) :
    Except Refusal (Executor τ ρ) :=
  if x.shut then .error .shutDown
  else if !inRuntime then .error .noRuntime
  else .ok { call ⟨x.issued, gate, task⟩ .fresh x with issued := x.issued + 1 }

def needsGate (g : Nat) (t : Ticket τ) : Bool :=
  t.gate == some g

def gateTaken (x : Executor τ ρ) (g : Nat) : Bool :=
  x.slotLine.any (needsGate g) || (x.running.any fun r => needsGate g r.ticket) ||
    x.called.any fun c => c.stage != .fresh && needsGate g c.ticket

/-- Whether the gate that a task needs, if any, is free for it. -/
def gateOpen (x : Executor τ ρ) (t : Ticket τ) : Bool :=
  match t.gate with
  | none => true
  | some g => !x.gateTaken g

/-- Slots that are in use or were handed to somebody. -/
def slotsTaken (x : Executor τ ρ) : Nat :=
  x.running.length + x.called.countP (·.stage == .slotted)

/-- The task that starts if there is a slot for it; else it waits for one. -/
def askSlot (t : Ticket τ) (x : Executor τ ρ) : Option (Ticket τ) × Executor τ ρ :=
  if x.slotsTaken < x.slots then (some t, x) else (none, { x with slotLine := x.slotLine ++ [t] })

/-- The first of those called moves on, and starts if it can. -/
def turn? (x : Executor τ ρ) : Option (Option (Ticket τ) × Executor τ ρ) :=
  match x.called with
  | [] => none
  | ⟨t, stage⟩ :: rest =>
      let x := { x with called := rest }
      match stage with
      | .slotted => some (some t, x)
      | .gated => some (askSlot t x)
      | .fresh =>
          if x.gateOpen t then some (askSlot t x)
          else some (none, { x with gateLine := x.gateLine ++ [t] })

def start (r : Running τ ρ) (x : Executor τ ρ) : Executor τ ρ :=
  { x with running := x.running ++ [r] }

/-- A slot that has become free goes to the first who waits for one. -/
def passSlot (x : Executor τ ρ) : Executor τ ρ :=
  match x.slotLine with
  | [] => x
  | t :: rest => call t .slotted { x with slotLine := rest }

/-- A gate that has become free goes to the first who waits for it. -/
def passGate (gate : Option Nat) (x : Executor τ ρ) : Executor τ ρ :=
  match gate with
  | none => x
  | some g =>
      match x.gateLine.find? (needsGate g) with
      | none => x
      | some t => call t .gated { x with gateLine := x.gateLine.eraseP (needsGate g) }

/-- Whoever started first of those that are due by the moment given. -/
def due? (now : Nat) (x : Executor τ ρ) : Option (Running τ ρ) :=
  x.running.find? (·.due ≤ now)

def finish (r : Running τ ρ) (x : Executor τ ρ) : Executor τ ρ :=
  passGate r.ticket.gate
    (passSlot { x with running := x.running.eraseP (·.ticket.number == r.ticket.number) })

/-- Once the executor is shut, those who have not started leave. -/
def withdraw (x : Executor τ ρ) : Executor τ ρ :=
  { x with called := [], gateLine := [], slotLine := [] }

def shutDown (x : Executor τ ρ) : Executor τ ρ :=
  { x with shut := true }

/-- Everyone running ends now, with the given result. -/
def interrupt (now : Nat) (result : ρ) (x : Executor τ ρ) : Executor τ ρ :=
  { x with running := x.running.map fun r => { r with due := now, result } }

def nextDue? (x : Executor τ ρ) : Option Nat :=
  (x.running.map (·.due)).min?

def Stage.load : Stage → Nat
  | .fresh => 6
  | .gated => 4
  | .slotted => 2

def callsLoad : List (Called τ) → Nat
  | [] => 0
  | c :: rest => Stage.load c.stage + callsLoad rest

/-- A bound on the moves until all is done: each takes a task at least one step nearer to its
end. -/
def load (x : Executor τ ρ) : Nat :=
  callsLoad x.called + 5 * x.gateLine.length + 3 * x.slotLine.length + x.running.length

end Executor
end ProjectDesk
