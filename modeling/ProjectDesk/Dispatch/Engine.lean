import ProjectDesk.Dispatch.Executor

/-!
An executor in time. The clock, in milliseconds, stands still while anything can happen; tasks
act on a world when they start and when they end, and the history tells of both.
-/

namespace ProjectDesk

/-- What tasks do: how long one takes that starts now and how it ends, and what follows from the
end. -/
structure Work (τ ρ σ : Type) where
  start : Nat → Ticket τ → σ → (Nat × ρ) × σ
  finish : Nat → Ticket τ → ρ → σ → σ

inductive Milestone (τ ρ : Type) where
  | started (ticket : Ticket τ) (time : Nat)
  | ended (ticket : Ticket τ) (time : Nat) (result : ρ)

structure Engine (τ ρ σ : Type) where
  executor : Executor τ ρ
  world : σ
  clock : Nat := 0
  history : List (Milestone τ ρ) := []

namespace Engine

variable {τ ρ σ : Type}

def start (work : Work τ ρ σ) (t : Ticket τ) (e : Engine τ ρ σ) : Engine τ ρ σ :=
  let ((lasts, result), world) := work.start e.clock t e.world
  { e with
    executor := e.executor.start ⟨t, e.clock + lasts, result⟩
    world
    history := e.history ++ [.started t e.clock] }

def finish (work : Work τ ρ σ) (r : Running τ ρ) (e : Engine τ ρ σ) : Engine τ ρ σ :=
  { e with
    executor := e.executor.finish r
    world := work.finish e.clock r.ticket r.result e.world
    history := e.history ++ [.ended r.ticket e.clock r.result] }

/-- One move at the present moment: leaving when shut, else an end that is due, else the turn of
the first who is called. -/
def step? (work : Work τ ρ σ) (e : Engine τ ρ σ) : Option (Engine τ ρ σ) :=
  if e.executor.shut && !e.executor.queued.isEmpty then
    some { e with executor := e.executor.withdraw }
  else
    match e.executor.due? e.clock with
    | some r => some (e.finish work r)
    | none =>
        match e.executor.turn? with
        | none => none
        | some (none, executor) => some { e with executor }
        | some (some t, executor) => some ({ e with executor }.start work t)

def steps (work : Work τ ρ σ) : Nat → Engine τ ρ σ → Engine τ ρ σ
  | 0, e => e
  | fuel + 1, e =>
      match e.step? work with
      | none => e
      | some e => steps work fuel e

/-- Lets everything happen that can at the present moment. -/
def settle (work : Work τ ρ σ) (e : Engine τ ρ σ) : Engine τ ρ σ :=
  e.steps work e.executor.load

def within (limit : Option Nat) (time : Nat) : Bool :=
  match limit with
  | none => true
  | some last => time ≤ last

/-- Goes from one ending to the next as long as the limit allows. -/
def runFor (work : Work τ ρ σ) (limit : Option Nat) : Nat → Engine τ ρ σ → Engine τ ρ σ
  | 0, e => e
  | fuel + 1, e =>
      let e := e.settle work
      match e.executor.nextDue? with
      | none => e
      | some time =>
          if within limit time then runFor work limit fuel { e with clock := time } else e

def runUntil (work : Work τ ρ σ) (limit : Option Nat) (e : Engine τ ρ σ) : Engine τ ρ σ :=
  e.runFor work limit (e.executor.inFlight + 1)

def advance (work : Work τ ρ σ) (ms : Nat) (e : Engine τ ρ σ) : Engine τ ρ σ :=
  { e.runUntil work (some (e.clock + ms)) with clock := e.clock + ms }

/-- Runs until no work is left. -/
def drain (work : Work τ ρ σ) (e : Engine τ ρ σ) : Engine τ ρ σ :=
  e.runUntil work none

end Engine
end ProjectDesk
