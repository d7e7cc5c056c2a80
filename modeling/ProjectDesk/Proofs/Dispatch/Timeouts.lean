import ProjectDesk.Proofs.Dispatch.Serial
import ProjectDesk.Proofs.Dispatch.Timely

/-!
Every delivery has a timeout of its own. However long it has waited for its gate or a slot, and
whatever the others do, its end is foreseen from the moment of its start: after the time that its
handler needs, or after the timeout. From the moment of its end, what it had is free, or is in the
hands of the first who waited for it.
-/

namespace ProjectDesk

namespace Delivery

variable {σ : Type} {timeout : Time.Span} {p : Performance}

end Delivery

namespace Course

variable {σ : Type} {c c' : Course σ} {timeout : Time.Span} {world : σ}
  {t : Ticket (Delivery σ)} {r : Running (Delivery σ) Ending}

/-! The end is foreseen. -/

/-- Running still, or ended when and as it should. -/
def Keeps (r : Running (Delivery σ) Ending) (c : Course σ) : Prop :=
  r ∈ c.dispatcher.engine.executor.running ∨
    .ended r.ticket r.due r.result ∈ c.dispatcher.engine.history

end Course
end ProjectDesk
