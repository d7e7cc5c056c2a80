import ProjectDesk.Config.Basic
import ProjectDesk.Dispatch.DeliveryFailure
import ProjectDesk.Dispatch.Engine
import ProjectDesk.Dispatch.FailureLog
import ProjectDesk.Dispatch.Registry
import ProjectDesk.Event.Announcement

/-!
Publishing events to the handlers that are subscribed to a topic. Publishing only schedules one
delivery for each; what becomes of it the publisher does not learn. A delivery that fails, takes
too long, is cut off by shutdown or cannot be scheduled is recorded.
-/

namespace ProjectDesk

structure Delivery (σ : Type) where
  id : Nat
  subscriber : HandlerInstance σ
  occasion : Occasion

/-- The record of a failure within the dispatcher, by delivery number and milliseconds. -/
abbrev FailureRecord : Type := DeliveryFailure Nat Nat

abbrev Ending : Type := Except HandlerError Unit

/-- What deliveries act on: the world of the handlers, and the log of failures. -/
structure Backstage (σ : Type) where
  world : σ
  failures : FailureLog FailureRecord

structure Dispatcher (σ : Type) where
  registry : Registry σ
  timeout : Time.Span
  engine : Engine (Delivery σ) Ending (Backstage σ)
  /-- How many deliveries have been attempted. -/
  attempted : Nat := 0

namespace Delivery

variable {σ : Type}

def failure (d : Delivery σ) (error : String) (now : Nat) : FailureRecord :=
  { delivery := d.id, handler := d.subscriber.handler.name, topic := d.occasion.topic,
    eventKind := d.occasion.event.kind.name, error, failedAt := now }

/-- Ending exactly at the timeout is in time. -/
def bounded (timeout : Time.Span) (p : Performance) : Nat × Ending :=
  match p.lasts with
  | none => (timeout.ticks, .error (.timedOut timeout))
  | some lasts =>
      if lasts ≤ timeout.ticks then (lasts, p.ending)
      else (timeout.ticks, .error (.timedOut timeout))

def start (timeout : Time.Span) (t : Ticket (Delivery σ)) (b : Backstage σ) :
    (Nat × Ending) × Backstage σ :=
  let (performance, world) := t.task.subscriber.handler.handle t.task.occasion b.world
  (bounded timeout performance, { b with world })

def finish (now : Nat) (t : Ticket (Delivery σ)) (ending : Ending) (b : Backstage σ) :
    Backstage σ :=
  match ending with
  | .ok () => b
  | .error e => { b with failures := b.failures.push (t.task.failure e.message now) }

def work (timeout : Time.Span) : Work (Delivery σ) Ending (Backstage σ) :=
  { start := fun _ => start timeout, finish }

end Delivery

namespace Dispatcher

variable {σ : Type}

/-- Nothing where the executor cannot have that many slots. -/
def new? (settings : DispatcherConfig) (timeout : Time.Span) (entries : List (Registration σ))
    (world : σ) : Option (Dispatcher σ) := do
  let executor ← Executor.new? settings.maxConcurrentHandlers
  some
    { registry := Registry.build entries
      timeout
      engine := { executor, world := { world, failures := { capacity := settings.failureHistory } } } }

def ofConfig? (settings : DispatcherConfig) (entries : List (Registration σ)) (world : σ) :
    Option (Dispatcher σ) :=
  new? settings settings.handlerTimeout entries world

def failures (d : Dispatcher σ) : FailureLog FailureRecord :=
  d.engine.world.failures

def world (d : Dispatcher σ) : σ :=
  d.engine.world.world

def withWorld (world : σ) (d : Dispatcher σ) : Dispatcher σ :=
  { d with engine := { d.engine with world := { d.engine.world with world } } }

def inFlight (d : Dispatcher σ) : Nat :=
  d.engine.executor.inFlight

def clock (d : Dispatcher σ) : Nat :=
  d.engine.clock

/-- Attempts one delivery; tells how many were scheduled, and records a refusal. -/
def deliver (occasion : Occasion) (inRuntime : Bool) (d : Dispatcher σ)
    (registered : RegisteredHandler σ) : Nat × Dispatcher σ :=
  let delivery : Delivery σ := ⟨d.attempted, registered.subscriber, occasion⟩
  let d := { d with attempted := d.attempted + 1 }
  match d.engine.executor.submit registered.lock delivery inRuntime with
  | .ok executor => (1, { d with engine := { d.engine with executor } })
  | .error refusal =>
      let record := delivery.failure refusal.message d.clock
      let backstage := d.engine.world
      (0, { d with
        engine := { d.engine with
          world := { backstage with failures := backstage.failures.push record } } })

def deliverAll (occasion : Occasion) (inRuntime : Bool) :
    List (RegisteredHandler σ) → Dispatcher σ → Nat × Dispatcher σ
  | [], d => (0, d)
  | registered :: rest, d =>
      let (one, d) := d.deliver occasion inRuntime registered
      let (more, d) := deliverAll occasion inRuntime rest d
      (one + more, d)

/-- Schedules a delivery for every subscriber of the topic, and tells for how many. -/
def publish (operator topic : String) (event : DomainEvent) (inRuntime : Bool)
    (d : Dispatcher σ) : Nat × Dispatcher σ :=
  d.deliverAll ⟨topic, operator, event⟩ inRuntime (d.registry.lookup topic)

/-- Publishes what is announced, on its own topic. -/
def announce (operator : String) (a : Announcement) (now : Time.Instant) (d : Dispatcher σ) :
    Nat × Dispatcher σ :=
  d.publish operator a.topic (a.event now) true

def advance (ms : Nat) (d : Dispatcher σ) : Dispatcher σ :=
  { d with engine := d.engine.advance (Delivery.work d.timeout) ms }

def drain (d : Dispatcher σ) : Dispatcher σ :=
  { d with engine := d.engine.drain (Delivery.work d.timeout) }

/-- Cuts off the deliveries that are running; those that wait are never started. -/
def shutDown (d : Dispatcher σ) : Dispatcher σ :=
  let executor := d.engine.executor.shutDown.interrupt d.clock (.error .cancelled)
  { d with engine := { d.engine with executor }.drain (Delivery.work d.timeout) }

end Dispatcher
end ProjectDesk
