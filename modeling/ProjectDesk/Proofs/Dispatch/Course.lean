import ProjectDesk.Dispatch.Dispatcher
import ProjectDesk.Proofs.Dispatch.Progress

/-!
Courses of a dispatcher, with books kept on the side: which deliveries were attempted and whether
they were refused, which failures were pushed, as the feed of the log shows them, and how often
shutdown was called. Deliveries may be scheduled in any order, and attempts and shutdown may come at
any time between their moves. What happens without waiting is one step: an attempt, from the look
whether shutdown has begun to the task that is spawned; a poll of a task, from one place where it
waits to the next; and the beginning of a shutdown.
-/

namespace ProjectDesk

namespace FailureLog

variable {φ : Type}

/-- What was pushed since an earlier moment, as far as the feed still holds it. -/
def since (before log : FailureLog φ) : List φ :=
  latest (log.pushed - before.pushed) log.held

theorem since_self (log : FailureLog φ) : since log log = [] := by
  simp [since, latest]

theorem since_push (failure : φ) (log : FailureLog φ) :
    since log (log.push failure) = [failure] := by
  have one : log.pushed + 1 - log.pushed = 1 := by omega
  simp only [since, push, one, latest, feedSize, List.length_drop, List.length_append,
    List.length_singleton, List.drop_drop]
  rw [List.drop_append_of_le_length (by omega), List.drop_of_length_le (by omega)]
  rfl

end FailureLog

/-- An attempt at a delivery, and why it was refused if it was. -/
structure Attempt (σ : Type) where
  delivery : Delivery σ
  time : Nat
  refusal? : Option Refusal

/-- A dispatcher, and what has come to pass since it was made. -/
structure Course (σ : Type) where
  dispatcher : Dispatcher σ
  attempts : List (Attempt σ) := []
  pushed : List FailureRecord := []
  shutdowns : Nat := 0

namespace Dispatcher

variable {σ : Type}

/-- The attempt that is made next. -/
def attempt (occasion : Occasion) (inRuntime : Bool) (d : Dispatcher σ)
    (registered : RegisteredHandler σ) : Attempt σ :=
  let delivery : Delivery σ := ⟨d.attempted, registered.subscriber, occasion⟩
  ⟨delivery, d.clock,
    match d.engine.executor.submit registered.lock delivery inRuntime with
    | .ok _ => none
    | .error refusal => some refusal⟩

/-- Shutdown before anybody has ended or left. -/
def cutOff (d : Dispatcher σ) : Dispatcher σ :=
  { d with
    engine := { d.engine with
      executor := d.engine.executor.shutDown.interrupt d.clock (.error .cancelled) } }

theorem shutDown_eq (d : Dispatcher σ) : d.shutDown = d.cutOff.drain := rfl

end Dispatcher

namespace Course

variable {σ : Type} {c c' : Course σ} {d : Dispatcher σ}

/-- On to another state of the dispatcher, with what has been pushed on the way. -/
def goOn (d : Dispatcher σ) (c : Course σ) : Course σ :=
  { c with dispatcher := d, pushed := c.pushed ++ c.dispatcher.failures.since d.failures }

theorem goOn_quiet (same : d.failures = c.dispatcher.failures) :
    c.goOn d = { c with dispatcher := d } := by
  rw [goOn, same, FailureLog.since_self, List.append_nil]

theorem goOn_push {failure : FailureRecord}
    (next : d.failures = c.dispatcher.failures.push failure) :
    c.goOn d = { c with dispatcher := d, pushed := c.pushed ++ [failure] } := by
  rw [goOn, next, FailureLog.since_push]

def attempt (occasion : Occasion) (inRuntime : Bool) (c : Course σ)
    (registered : RegisteredHandler σ) : Course σ :=
  { c.goOn (c.dispatcher.deliver occasion inRuntime registered).2 with
    attempts := c.attempts ++ [c.dispatcher.attempt occasion inRuntime registered] }

def cutOff (c : Course σ) : Course σ :=
  { c.goOn c.dispatcher.cutOff with shutdowns := c.shutdowns + 1 }

theorem dispatcher_cutOff (c : Course σ) : c.cutOff.dispatcher = c.dispatcher.cutOff := rfl

inductive Step (c : Course σ) : Course σ → Prop
  | attempted (occasion : Occasion) (inRuntime : Bool) (registered : RegisteredHandler σ) :
      Step c (c.attempt occasion inRuntime registered)
  | moved {e : Engine (Delivery σ) Ending (Backstage σ)}
      (h : c.dispatcher.engine.Move (Delivery.work c.dispatcher.timeout) e) :
      Step c (c.goOn { c.dispatcher with engine := e })
  | cutOff : Step c c.cutOff

def Runs : Course σ → Course σ → Prop :=
  Relation.ReflTransGen Step

/-! The dispatcher's own course. -/

/-- A call that leaves the dispatcher in a given state, with the attempts it makes. -/
structure Call (c : Course σ) (d : Dispatcher σ) (tried : List (Attempt σ)) (shutdowns : Nat)
    (c' : Course σ) : Prop where
  runs : c.Runs c'
  dispatcher : c'.dispatcher = d
  attempts : c'.attempts = c.attempts ++ tried
  shutdowns : c'.shutdowns = c.shutdowns + shutdowns

/-- On with the engine, in one of the ways given. -/
def Along (way : Work (Delivery σ) Ending (Backstage σ) →
    Engine (Delivery σ) Ending (Backstage σ) → Engine (Delivery σ) Ending (Backstage σ) → Prop)
    (c c' : Course σ) : Prop :=
  ∃ e, way (Delivery.work c.dispatcher.timeout) c.dispatcher.engine e ∧
    c' = c.goOn { c.dispatcher with engine := e }

theorem exists_along {way : Work (Delivery σ) Ending (Backstage σ) →
      Engine (Delivery σ) Ending (Backstage σ) → Engine (Delivery σ) Ending (Backstage σ) → Prop}
    {e e' : Engine (Delivery σ) Ending (Backstage σ)}
    (h : Relation.ReflTransGen (way (Delivery.work c.dispatcher.timeout)) e e')
    (now : c.dispatcher.engine = e) :
    ∃ c', Relation.ReflTransGen (Along way) c c' ∧
      c'.dispatcher = { c.dispatcher with engine := e' } ∧ c'.attempts = c.attempts ∧
      c'.shutdowns = c.shutdowns := by
  induction h with
  | refl =>
      subst now
      exact ⟨c, .refl, rfl, rfl, rfl⟩
  | @tail _ last _ onward ih =>
      obtain ⟨next, path, dispatcher, attempts, shutdowns⟩ := ih
      refine ⟨next.goOn { next.dispatcher with engine := last }, path.tail ⟨last, ?_, rfl⟩, ?_,
        attempts, shutdowns⟩
      · rw [dispatcher]
        exact onward
      · simp only [goOn, dispatcher]

theorem call_of_goes {e : Engine (Delivery σ) Ending (Backstage σ)}
    (h : Relation.ReflTransGen (Engine.Goes (Delivery.work c.dispatcher.timeout))
      c.dispatcher.engine e) :
    ∃ c', c.Call { c.dispatcher with engine := e } [] 0 c' := by
  obtain ⟨c', path, dispatcher, attempts, shutdowns⟩ := exists_along h rfl
  have runs : c.Runs c' := by
    refine Relation.ReflTransGen.mono ?_ _ _ path
    rintro _ _ ⟨e, goes, rfl⟩
    exact .moved goes.move
  exact ⟨c', runs, dispatcher, attempts.trans (List.append_nil _).symm, shutdowns⟩

theorem call_advance (ms : Nat) (c : Course σ) :
    ∃ c', c.Call (c.dispatcher.advance ms) [] 0 c' :=
  call_of_goes (Engine.goes_advance ms _)

theorem call_drain (c : Course σ) : ∃ c', c.Call c.dispatcher.drain [] 0 c' :=
  call_of_goes (Engine.goes_drain _)

/-- Shutdown waits for everybody, after they were cut off. -/
theorem call_shutDown (c : Course σ) :
    ∃ c', c.cutOff.Call c.dispatcher.shutDown [] 0 c' :=
  c.cutOff.call_drain

def attemptAll (occasion : Occasion) (inRuntime : Bool) (entries : List (RegisteredHandler σ))
    (c : Course σ) : Course σ :=
  entries.foldl (attempt occasion inRuntime) c

theorem runs_attemptAll (occasion : Occasion) (inRuntime : Bool)
    (entries : List (RegisteredHandler σ)) (c : Course σ) :
    c.Runs (c.attemptAll occasion inRuntime entries) := by
  induction entries generalizing c with
  | nil => exact .refl
  | cons registered rest ih => exact .head (.attempted occasion inRuntime registered) (ih _)

theorem shutdowns_attemptAll (occasion : Occasion) (inRuntime : Bool)
    (entries : List (RegisteredHandler σ)) (c : Course σ) :
    (c.attemptAll occasion inRuntime entries).shutdowns = c.shutdowns := by
  induction entries generalizing c with
  | nil => rfl
  | cons registered rest ih => exact ih _

theorem dispatcher_attemptAll (occasion : Occasion) (inRuntime : Bool)
    (entries : List (RegisteredHandler σ)) (c : Course σ) :
    (c.attemptAll occasion inRuntime entries).dispatcher =
      (c.dispatcher.deliverAll occasion inRuntime entries).2 := by
  induction entries generalizing c with
  | nil => rfl
  | cons registered rest ih => exact ih _

end Course
end ProjectDesk
