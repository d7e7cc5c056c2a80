import ProjectDesk.Dispatch.HandlerError
import ProjectDesk.Event.Basic

/-!
Handlers of events. A handler acts on the world around it and takes its time; a stateful one
never has two deliveries at once. The token by which shutdown cuts a delivery off is left out of
its occasion: handlers only watch it, and a delivery that is cut off ends at once, whatever its
handler does about it.
-/

namespace ProjectDesk

/-- What a handler is told about a delivery. -/
structure Occasion where
  topic : String
  operator : String
  event : DomainEvent
  deriving Repr

/-- How long a handler takes, in milliseconds, and how it ends; it may take for ever. -/
structure Performance where
  lasts : Option Nat
  ending : Except HandlerError Unit

namespace Performance

def atOnce (ending : Except HandlerError Unit) : Performance := ⟨some 0, ending⟩

end Performance

structure Handler (σ : Type) where
  name : String
  stateful : Bool := false
  handle : Occasion → σ → Performance × σ

end ProjectDesk
