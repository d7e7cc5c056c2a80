import ProjectDesk.Proofs.Dispatch.Performed

/-!
The ledger of deliveries: what publishing attempts, what becomes of every delivery, what its handler
does, and what is recorded of it, whatever is called in between and in whatever order deliveries go
on.
-/

namespace ProjectDesk.Course

variable {σ : Type} {c c' : Course σ} {d : Delivery σ} {timeout : Time.Span} {world : σ}

theorem attempt_books (occasion : Occasion) (inRuntime : Bool) (registered : RegisteredHandler σ)
    (c : Course σ) :
    let tried := c.dispatcher.attempt occasion inRuntime registered
    tried.delivery.subscriber = registered.subscriber ∧ tried.delivery.occasion = occasion ∧
      (c.dispatcher.deliver occasion inRuntime registered).1 = [tried].countP (·.refusal?.isNone) ∧
      (c.attempt occasion inRuntime registered).pushed =
        c.pushed ++ [tried].filterMap Attempt.record? := by
  refine ⟨rfl, rfl, ?_⟩
  cases submitted : c.dispatcher.engine.executor.submit registered.lock
      ⟨c.dispatcher.attempted, registered.subscriber, occasion⟩ inRuntime with
  | ok x =>
      obtain ⟨deliver, attempt⟩ := Dispatcher.deliver_of_submit submitted
      rw [Course.attempt, deliver, attempt, goOn_quiet]
      · exact ⟨rfl, (List.append_nil _).symm⟩
      · rfl
  | error refusal =>
      obtain ⟨none, deliver, attempt⟩ := Dispatcher.deliver_of_refusal submitted
      rw [Course.attempt, none, deliver, attempt, goOn_push]
      · exact ⟨rfl, rfl⟩
      · rfl

theorem attemptAll_books (occasion : Occasion) (inRuntime : Bool)
    (entries : List (RegisteredHandler σ)) (c : Course σ) :
    ∃ tried, (c.attemptAll occasion inRuntime entries).attempts = c.attempts ++ tried ∧
      tried.map (fun a => (a.delivery.subscriber, a.delivery.occasion)) =
        entries.map (fun registered => (registered.subscriber, occasion)) ∧
      (c.dispatcher.deliverAll occasion inRuntime entries).1 =
        tried.countP (·.refusal?.isNone) ∧
      (c.attemptAll occasion inRuntime entries).pushed =
        c.pushed ++ tried.filterMap Attempt.record? := by
  induction entries generalizing c with
  | nil => exact ⟨[], (List.append_nil _).symm, rfl, rfl, (List.append_nil _).symm⟩
  | cons registered rest ih =>
      obtain ⟨subscriber, occasion', one, pushed⟩ := c.attempt_books occasion inRuntime registered
      obtain ⟨tried, attempts, who, more, records⟩ :=
        ih (c.attempt occasion inRuntime registered)
      refine ⟨c.dispatcher.attempt occasion inRuntime registered :: tried, ?_, ?_, ?_, ?_⟩
      · refine attempts.trans ?_
        simp only [Course.attempt, List.append_assoc, List.singleton_append]
      · rw [List.map_cons, List.map_cons, who, subscriber, occasion']
      · refine (congrArg₂ (· + ·) one more).trans ?_
        rw [← List.countP_append]
        rfl
      · refine records.trans ?_
        rw [pushed, List.append_assoc, ← List.filterMap_append]
        rfl

theorem call_publish (operator topic : String) (event : DomainEvent) (inRuntime : Bool)
    (c : Course σ) :
    ∃ next tried, c.Call (c.dispatcher.publish operator topic event inRuntime).2 tried 0 next ∧
      tried.map (fun a => (a.delivery.subscriber, a.delivery.occasion)) =
        (c.dispatcher.registry.lookup topic).map
          (fun registered => (registered.subscriber, ⟨topic, operator, event⟩)) ∧
      (c.dispatcher.publish operator topic event inRuntime).1 =
        tried.countP (·.refusal?.isNone) ∧
      next.pushed = c.pushed ++ tried.filterMap Attempt.record? := by
  obtain ⟨tried, attempts, who, scheduled, pushed⟩ :=
    c.attemptAll_books ⟨topic, operator, event⟩ inRuntime (c.dispatcher.registry.lookup topic)
  refine ⟨_, tried, ⟨runs_attemptAll _ _ _ c, dispatcher_attemptAll _ _ _ c, attempts, ?_⟩, who,
    scheduled, pushed⟩
  exact shutdowns_attemptAll _ _ _ c

theorem inFlight_drain (h : c.Balanced) : c.dispatcher.drain.inFlight = 0 :=
  Engine.inFlight_drain h.steady

theorem inFlight_shutDown (h : c.Balanced) : c.dispatcher.shutDown.inFlight = 0 := by
  rw [Dispatcher.shutDown_eq, ← dispatcher_cutOff]
  exact inFlight_drain h.cutOff

/-- A stateful handler that takes its time and fails. -/
def failing (lasts : Nat) : HandlerInstance Unit :=
  ⟨0, "auditor", true, fun _ world => (⟨some lasts, .error (.failed "disk full")⟩, world)⟩

end ProjectDesk.Course
