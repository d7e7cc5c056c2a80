import ProjectDesk.Dispatch.Handler

/-!
Which handlers are subscribed to which topics. One instance of a handler can serve several
topics; a stateful instance has one lock for all of them.
-/

namespace ProjectDesk

/-- A handler with the number that tells it from every other instance. -/
structure HandlerInstance (σ : Type) where
  number : Nat
  handler : Handler σ

structure Registration (σ : Type) where
  topic : String
  subscriber : HandlerInstance σ

structure RegisteredHandler (σ : Type) where
  subscriber : HandlerInstance σ
  /-- Stateful handlers have a lock. -/
  lock : Option Nat

structure Registry (σ : Type) where
  topics : List (String × List (RegisteredHandler σ)) := []

namespace Registration

variable {σ : Type}

/-- An instance is subscribed to a topic once, however often it is registered there. -/
def register (topic : String) (subscriber : HandlerInstance σ) (entries : List (Registration σ)) :
    List (Registration σ) :=
  if entries.any fun e => e.topic == topic && e.subscriber.number == subscriber.number then entries
  else entries ++ [⟨topic, subscriber⟩]

end Registration

namespace Registry

variable {σ : Type}

/-- Handlers in the order of their registration; none for an unknown topic. -/
def lookup (registry : Registry σ) (topic : String) : List (RegisteredHandler σ) :=
  (registry.topics.lookup topic).getD []

def topicNames (registry : Registry σ) : List String :=
  registry.topics.map (·.1)

def isEmpty (registry : Registry σ) : Bool :=
  registry.topics.isEmpty

/-- The lock of an instance: its place among the stateful instances, in order of appearance. -/
def lockOf (locked : List Nat) (subscriber : HandlerInstance σ) : Option Nat × List Nat :=
  if subscriber.handler.stateful then
    match locked.idxOf? subscriber.number with
    | some lock => (some lock, locked)
    | none => (some locked.length, locked ++ [subscriber.number])
  else (none, locked)

def addTo (topic : String) (entry : RegisteredHandler σ) :
    List (String × List (RegisteredHandler σ)) → List (String × List (RegisteredHandler σ))
  | [] => [(topic, [entry])]
  | (name, entries) :: rest =>
      if name == topic then (name, entries ++ [entry]) :: rest
      else (name, entries) :: addTo topic entry rest

def buildFrom (locked : List Nat) (registry : Registry σ) : List (Registration σ) → Registry σ
  | [] => registry
  | ⟨topic, subscriber⟩ :: rest =>
      let (lock, locked) := lockOf locked subscriber
      buildFrom locked ⟨addTo topic ⟨subscriber, lock⟩ registry.topics⟩ rest

def build (entries : List (Registration σ)) : Registry σ :=
  buildFrom [] {} entries

end Registry
end ProjectDesk
