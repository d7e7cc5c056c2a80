/-!
The log of failures: a history of the latest ones, and a feed for subscribers. A subscriber sees
everything that was pushed after it subscribed, but the feed only holds so much; who falls
further behind is told how many it missed and goes on with the oldest still held.
-/

namespace ProjectDesk

structure Subscription where
  id : Nat
  /-- How many pushes there were before the one it gets next. -/
  position : Nat
  deriving DecidableEq, Repr

structure FailureLog (φ : Type) where
  capacity : Nat
  /-- Oldest first. -/
  history : List φ := []
  /-- What the feed still holds, oldest first. -/
  held : List φ := []
  pushed : Nat := 0
  subscriptions : List Subscription := []
  /-- How many subscriptions there have been. -/
  subscribed : Nat := 0

inductive Received (φ : Type) where
  | next (failure : φ)
  | empty
  | lagged (missed : Nat)
  | noSubscription
  deriving DecidableEq, Repr

namespace FailureLog

variable {φ : Type}

def feedSize : Nat := 256

/-- The last `n` of a list. -/
def latest (n : Nat) (xs : List φ) : List φ :=
  xs.drop (xs.length - n)

def push (failure : φ) (log : FailureLog φ) : FailureLog φ :=
  { log with
    history := latest log.capacity (log.history ++ [failure])
    held := latest feedSize (log.held ++ [failure])
    pushed := log.pushed + 1 }

def size (log : FailureLog φ) : Nat :=
  log.history.length

def isEmpty (log : FailureLog φ) : Bool :=
  log.history.isEmpty

def subscribe (log : FailureLog φ) : Nat × FailureLog φ :=
  (log.subscribed,
    { log with
      subscriptions := log.subscriptions ++ [⟨log.subscribed, log.pushed⟩]
      subscribed := log.subscribed + 1 })

def unsubscribe (id : Nat) (log : FailureLog φ) : FailureLog φ :=
  { log with subscriptions := log.subscriptions.filter (·.id != id) }

def moveTo (id position : Nat) (log : FailureLog φ) : FailureLog φ :=
  { log with
    subscriptions := log.subscriptions.map fun s => if s.id = id then ⟨id, position⟩ else s }

/-- How many pushes the feed no longer holds. -/
def dropped (log : FailureLog φ) : Nat :=
  log.pushed - log.held.length

def receive (id : Nat) (log : FailureLog φ) : Received φ × FailureLog φ :=
  match log.subscriptions.find? (·.id == id) with
  | none => (.noSubscription, log)
  | some s =>
      if s.position < log.dropped then
        (.lagged (log.dropped - s.position), log.moveTo id log.dropped)
      else
        match log.held[s.position - log.dropped]? with
        | none => (.empty, log)
        | some failure => (.next failure, log.moveTo id (s.position + 1))

end FailureLog
end ProjectDesk
