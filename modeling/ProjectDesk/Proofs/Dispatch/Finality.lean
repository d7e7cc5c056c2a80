import ProjectDesk.Proofs.Dispatch.Shutdown
import ProjectDesk.Proofs.Dispatch.Subscription

/-!
Shutdown is final. From the moment of it nobody starts any more, whoever runs is cut off, and once
nobody is left nobody comes back. Whatever is published then is refused for every subscriber of its
topic, and every refusal is recorded, however often anybody waits or shuts down again.
-/

namespace ProjectDesk

def FailureLog.pushAll {φ : Type} (failures : List φ) (log : FailureLog φ) : FailureLog φ :=
  failures.foldl (fun log failure => log.push failure) log

/-- What a record says of a delivery, and why it failed. -/
def DeliveryFailure.gist {ι τ : Type} (f : DeliveryFailure ι τ) :
    String × String × String × String :=
  (f.handler, f.topic, f.eventKind, f.error)

namespace Dispatcher

variable {σ : Type} {d : Dispatcher σ}

/-- Also where there is no runtime, it is the shutdown that is given as the reason. -/
theorem deliver_of_shut (shut : d.engine.executor.shut = true) (occasion : Occasion)
    (inRuntime : Bool) (registered : RegisteredHandler σ) :
    (d.deliver occasion inRuntime registered).1 = 0 ∧
      (d.deliver occasion inRuntime registered).2.engine.executor = d.engine.executor ∧
      ∃ record, (d.deliver occasion inRuntime registered).2.failures = d.failures.push record ∧
        record.gist = (registered.subscriber.handler.name, occasion.topic,
          occasion.event.kind.name, Refusal.shutDown.message) := by
  have refused (delivery : Delivery σ) :
      d.engine.executor.submit registered.lock delivery inRuntime = .error .shutDown :=
    if_pos shut
  obtain ⟨none, next, -⟩ := deliver_of_refusal (refused _)
  rw [none, next]
  exact ⟨rfl, rfl, _, rfl, rfl⟩

theorem deliverAll_of_shut (shut : d.engine.executor.shut = true) (occasion : Occasion)
    (inRuntime : Bool) (entries : List (RegisteredHandler σ)) :
    (d.deliverAll occasion inRuntime entries).1 = 0 ∧
      ∃ records, (d.deliverAll occasion inRuntime entries).2.failures =
          d.failures.pushAll records ∧
        records.map DeliveryFailure.gist = entries.map fun registered =>
          (registered.subscriber.handler.name, occasion.topic, occasion.event.kind.name,
            Refusal.shutDown.message) := by
  induction entries generalizing d with
  | nil => exact ⟨rfl, [], rfl, rfl⟩
  | cons registered rest ih =>
      obtain ⟨none, executor, record, pushed, gist⟩ :=
        deliver_of_shut shut occasion inRuntime registered
      obtain ⟨nobody, records, others, gists⟩ :=
        ih (d := (d.deliver occasion inRuntime registered).2) (by rw [executor]; exact shut)
      refine ⟨?_, record :: records, ?_, ?_⟩
      · simp only [deliverAll, none, nobody]
      · refine others.trans ?_
        rw [pushed]
        rfl
      · rw [List.map_cons, List.map_cons, gist, gists]

end Dispatcher

namespace Course

variable {σ : Type} {c c' : Course σ}

/-- Nobody comes back. -/
theorem Step.inFlight_of_shut (step : c.Step c') (h : c.Balanced)
    (shut : c.dispatcher.engine.executor.shut = true) (idle : c.dispatcher.inFlight = 0) :
    c'.dispatcher.inFlight = 0 := by
  cases step with
  | attempted occasion inRuntime registered =>
      obtain ⟨-, executor, -⟩ :=
        Dispatcher.deliver_of_shut shut occasion inRuntime registered
      refine Eq.trans ?_ idle
      exact congrArg Executor.inFlight executor
  | moved move =>
      exact Nat.eq_zero_of_le_zero
        (idle ▸ Engine.Moves.inFlight_le h.steady (Relation.ReflTransGen.single move))
  | cutOff =>
      refine Eq.trans ?_ idle
      simp [dispatcher_cutOff, Dispatcher.cutOff, Dispatcher.inFlight, Executor.inFlight,
        Executor.queued, Executor.interrupt, Executor.shutDown]

theorem Runs.inFlight_of_shut (runs : c.Runs c') (h : c.Balanced)
    (shut : c.dispatcher.engine.executor.shut = true) (idle : c.dispatcher.inFlight = 0) :
    c'.dispatcher.inFlight = 0 := by
  induction runs with
  | refl => exact idle
  | tail runs step ih =>
      exact step.inFlight_of_shut (h.runs runs) ((h.follows runs).begun shut).1 ih

/-- What is published is refused for everybody who was registered for the topic. -/
theorem publish_refused {entries : List (Registration σ)}
    (registry : c.dispatcher.registry = Registry.build entries)
    (shut : c.dispatcher.engine.executor.shut = true) (operator topic : String)
    (event : DomainEvent) (inRuntime : Bool) :
    (c.dispatcher.publish operator topic event inRuntime).1 = 0 ∧
      ∃ records, (c.dispatcher.publish operator topic event inRuntime).2.failures =
          c.dispatcher.failures.pushAll records ∧
        records.map DeliveryFailure.gist =
          (entries.filter (·.topic == topic)).map fun entry =>
            (entry.subscriber.handler.name, topic, event.kind.name, Refusal.shutDown.message) := by
  obtain ⟨none, records, pushed, gists⟩ :=
    Dispatcher.deliverAll_of_shut shut ⟨topic, operator, event⟩ inRuntime
      (c.dispatcher.registry.lookup topic)
  refine ⟨none, records, pushed, gists.trans ?_⟩
  have subscribers := congrArg
    (List.map fun s : HandlerInstance σ =>
      (s.handler.name, topic, event.kind.name, Refusal.shutDown.message))
    (Registry.lookup_build entries topic)
  rw [List.map_map, List.map_map] at subscribers
  rw [registry]
  exact subscribers

/-- Whatever happens from the moment of shutdown on, and when shutdown returns. -/
theorem shutdown_final {settings : DispatcherConfig} {timeout : Time.Span}
    {entries : List (Registration σ)} {world : σ} {start : Dispatcher σ}
    (made : Dispatcher.new? settings timeout entries world = some start)
    (before : Runs { dispatcher := start } c) :
    (∀ c', c.cutOff.Runs c' →
      c'.dispatcher.engine.begun = c.dispatcher.engine.begun ∧
      (∀ r ∈ c.dispatcher.engine.executor.running,
        (∃ r' ∈ c'.dispatcher.engine.executor.running,
          r'.ticket = r.ticket ∧ r'.result = .error .cancelled) ∨
        ∃ x ∈ c'.dispatcher.engine.closings,
          x.ticket = r.ticket ∧ x.result = .error .cancelled) ∧
      (c'.dispatcher.inFlight = 0 → ∀ c'', c'.Runs c'' → c''.dispatcher.inFlight = 0) ∧
      ∀ operator topic event inRuntime,
        (c'.dispatcher.publish operator topic event inRuntime).1 = 0 ∧
          ∃ records, (c'.dispatcher.publish operator topic event inRuntime).2.failures =
              c'.dispatcher.failures.pushAll records ∧
            records.map DeliveryFailure.gist =
              (entries.filter (·.topic == topic)).map fun entry =>
                (entry.subscriber.handler.name, topic, event.kind.name,
                  "Background executor is shut down")) ∧
    ∃ c', c.cutOff.Call c.dispatcher.shutDown [] 0 c' ∧ c'.dispatcher.inFlight = 0 ∧
      ∀ r ∈ c.dispatcher.engine.executor.running, ∃ x ∈ c'.dispatcher.engine.closings,
        x.ticket = r.ticket ∧ x.result = .error .cancelled := by
  have balanced : c.Balanced := (balanced_of_new? made).runs before
  have registry : c.dispatcher.registry = Registry.build entries := by
    rw [before.registry]
    obtain ⟨executor, -, made⟩ := Option.bind_eq_some_iff.mp made
    cases made
    rfl
  constructor
  · intro c' further
    have stopped := (stopped_cutOff c).runs balanced.cutOff further
    refine ⟨((balanced.cutOff.follows further).begun rfl).2, ?_, ?_, ?_⟩
    · intro r hr
      exact balanced.cut further hr
    · intro idle c'' later
      exact later.inFlight_of_shut (balanced.cutOff.runs further) stopped.shut idle
    · exact publish_refused (further.registry.trans registry) stopped.shut
  · obtain ⟨c', call⟩ := c.call_shutDown
    have idle : c'.dispatcher.inFlight = 0 := by
      rw [call.dispatcher]
      exact inFlight_shutDown balanced
    exact ⟨c', call, idle, fun r hr => balanced.running_cutOff call.runs idle hr⟩

/-- One is cut off and one is refused afterwards, where another one waits in between. -/
theorem shutdown_final_one_waits : ∃ (c c' : Course Unit) (event : DomainEvent),
    c.cutOff.Runs c' ∧ c'.dispatcher.inFlight = 0 ∧
      (∃ x ∈ c'.dispatcher.engine.closings,
        x.ticket.task.id = 0 ∧ x.result = .error .cancelled) ∧
      (c'.dispatcher.publish "root" Topic.approveRequest event true).1 = 0 ∧
      ∃ record, (c'.dispatcher.publish "root" Topic.approveRequest event true).2.failures =
          c'.dispatcher.failures.push record ∧
        record.gist = ("auditor", Topic.approveRequest, event.kind.name,
          "Background executor is shut down") := by
  obtain ⟨start, c, made, before, -, r, runs, zero⟩ := one_waits
  obtain ⟨always, c', call, idle, cutOff⟩ := shutdown_final made before
  obtain ⟨x, hx, same, cancelled⟩ := cutOff r runs
  let event : DomainEvent := .approveRequest
    ⟨Topic.approveRequest, 1, "alpha", 1, "root", ⟨⟨2026, 6, 1⟩, 12, 0, 0, 0⟩⟩
  obtain ⟨-, -, -, publish⟩ := always c' call.runs
  obtain ⟨none, records, pushed, gists⟩ := publish "root" Topic.approveRequest event true
  rw [show List.filter _ _ = [⟨Topic.approveRequest, failing 500⟩] from rfl] at gists
  obtain ⟨record, rest, rfl, gist, others⟩ := List.map_eq_cons_iff.mp gists
  obtain rfl := List.map_eq_nil_iff.mp others
  exact ⟨c, c', event, call.runs, idle, ⟨x, hx, by rw [same, zero], cancelled⟩, none, record,
    pushed, gist⟩

end Course
end ProjectDesk
