import ProjectDesk.Proofs.Dispatch.Course

/-!
The books of a course are balanced at any time: what was scheduled is under way, or has ended, or
has left after shutdown; who has started is running or has ended; and what was pushed is what the
refused attempts and the failed deliveries come to, once each.
-/

namespace ProjectDesk

/-- The record that a refused attempt comes to. -/
def Attempt.record? {σ : Type} (a : Attempt σ) : Option FailureRecord :=
  a.refusal?.map fun refusal => a.delivery.failure refusal.message a.time

/-- The record that a delivery comes to by its end. -/
def Closing.record? {σ : Type} (c : Closing (Delivery σ) Ending) : Option FailureRecord :=
  match c.result with
  | .ok () => none
  | .error e => some (c.ticket.task.failure e.message c.time)

namespace Dispatcher

variable {σ : Type} {d : Dispatcher σ} {occasion : Occasion} {inRuntime : Bool}
  {registered : RegisteredHandler σ}

theorem deliver_of_submit {x : Executor (Delivery σ) Ending}
    (h : d.engine.executor.submit registered.lock ⟨d.attempted, registered.subscriber, occasion⟩
      inRuntime = .ok x) :
    d.deliver occasion inRuntime registered =
        (1, { d with attempted := d.attempted + 1, engine := { d.engine with executor := x } }) ∧
      d.attempt occasion inRuntime registered =
        ⟨⟨d.attempted, registered.subscriber, occasion⟩, d.clock, none⟩ := by
  constructor
  · simp only [deliver, h]
  · simp only [attempt, h]

theorem deliver_of_refusal {refusal : Refusal}
    (h : d.engine.executor.submit registered.lock ⟨d.attempted, registered.subscriber, occasion⟩
      inRuntime = .error refusal) :
    (d.deliver occasion inRuntime registered).1 = 0 ∧
      (d.deliver occasion inRuntime registered).2 =
        { d with
          attempted := d.attempted + 1
          engine := { d.engine with
            world := { d.engine.world with
              failures := d.failures.push ((⟨d.attempted, registered.subscriber, occasion⟩ :
                Delivery σ).failure refusal.message d.clock) } } } ∧
      d.attempt occasion inRuntime registered =
        ⟨⟨d.attempted, registered.subscriber, occasion⟩, d.clock, some refusal⟩ := by
  refine ⟨?_, ?_, ?_⟩
  · simp only [deliver, h]
  · simp only [deliver, h]
    rfl
  · simp only [attempt, h]

end Dispatcher

namespace Course

variable {σ : Type} {c c' : Course σ}

/-- How an attempt goes: the delivery is scheduled, or its refusal is recorded. -/
inductive Attempted (occasion : Occasion) (inRuntime : Bool) (registered : RegisteredHandler σ)
    (c : Course σ) : Course σ → Prop
  | scheduled {d : Delivery σ} {x : Executor (Delivery σ) Ending}
      (next : d = ⟨c.dispatcher.attempted, registered.subscriber, occasion⟩)
      (accepted : c.dispatcher.engine.executor.submit registered.lock d inRuntime = .ok x) :
      Attempted occasion inRuntime registered c
        { c with
          dispatcher := { c.dispatcher with
            attempted := c.dispatcher.attempted + 1
            engine := { c.dispatcher.engine with executor := x } }
          attempts := c.attempts ++ [⟨d, c.dispatcher.clock, none⟩] }
  | refused {d : Delivery σ} {refusal : Refusal}
      (next : d = ⟨c.dispatcher.attempted, registered.subscriber, occasion⟩)
      (rejected : c.dispatcher.engine.executor.submit registered.lock d inRuntime =
        .error refusal) :
      Attempted occasion inRuntime registered c
        { c with
          dispatcher := { c.dispatcher with
            attempted := c.dispatcher.attempted + 1
            engine := { c.dispatcher.engine with
              world := { c.dispatcher.engine.world with
                failures := c.dispatcher.failures.push
                  (d.failure refusal.message c.dispatcher.clock) } } }
          attempts := c.attempts ++ [⟨d, c.dispatcher.clock, some refusal⟩]
          pushed := c.pushed ++ [d.failure refusal.message c.dispatcher.clock] }

theorem attempted (occasion : Occasion) (inRuntime : Bool) (registered : RegisteredHandler σ)
    (c : Course σ) : c.Attempted occasion inRuntime registered
      (c.attempt occasion inRuntime registered) := by
  cases submitted : c.dispatcher.engine.executor.submit registered.lock
      ⟨c.dispatcher.attempted, registered.subscriber, occasion⟩ inRuntime with
  | ok x =>
      obtain ⟨deliver, attempt⟩ := Dispatcher.deliver_of_submit submitted
      rw [Course.attempt, deliver, attempt, goOn_quiet]
      · exact .scheduled rfl submitted
      · rfl
  | error refusal =>
      obtain ⟨-, deliver, attempt⟩ := Dispatcher.deliver_of_refusal submitted
      rw [Course.attempt, deliver, attempt, goOn_push]
      · exact .refused rfl submitted
      · rfl

theorem Step.registry (h : c.Step c') : c'.dispatcher.registry = c.dispatcher.registry := by
  cases h with
  | attempted occasion inRuntime registered =>
      have attempted := c.attempted occasion inRuntime registered
      generalize c.attempt occasion inRuntime registered = c' at attempted
      cases attempted <;> rfl
  | moved _ | cutOff => rfl

theorem Runs.registry (h : c.Runs c') : c'.dispatcher.registry = c.dispatcher.registry := by
  induction h with
  | refl => rfl
  | tail _ step ih => exact step.registry.trans ih

theorem Step.timeout (h : c.Step c') : c'.dispatcher.timeout = c.dispatcher.timeout := by
  cases h with
  | attempted occasion inRuntime registered =>
      have attempted := c.attempted occasion inRuntime registered
      generalize c.attempt occasion inRuntime registered = c' at attempted
      cases attempted <;> rfl
  | moved _ | cutOff => rfl

theorem Runs.timeout (h : c.Runs c') : c'.dispatcher.timeout = c.dispatcher.timeout := by
  induction h with
  | refl => rfl
  | tail _ step ih => exact step.timeout.trans ih

/-- The deliveries that were scheduled, in this order. -/
def scheduled (c : Course σ) : List (Delivery σ) :=
  (c.attempts.filter (·.refusal?.isNone)).map (·.delivery)

structure Balanced (c : Course σ) : Prop where
  steady : c.dispatcher.engine.executor.Steady
  numbered : c.attempts.map (·.delivery.id) = List.range c.dispatcher.attempted
  scheduled : ∃ gone, c.scheduled.Perm (c.dispatcher.engine.executor.tickets.map (·.task) ++
    (c.dispatcher.engine.closings.map (·.ticket.task) ++ gone)) ∧
      (c.dispatcher.engine.executor.shut = false → gone = [])
  booked : c.dispatcher.engine.Booked
  stopped : c.dispatcher.engine.executor.shut = true → 0 < c.shutdowns
  pushed : c.pushed.Perm (c.attempts.filterMap Attempt.record? ++
    c.dispatcher.engine.closings.filterMap Closing.record?)

theorem Balanced.attempted {occasion : Occasion} {inRuntime : Bool}
    {registered : RegisteredHandler σ} (h : c.Balanced)
    (attempted : c.Attempted occasion inRuntime registered c') : c'.Balanced := by
  have numbered : c.attempts.map (·.delivery.id) ++ [c.dispatcher.attempted] =
      List.range (c.dispatcher.attempted + 1) := by
    rw [h.numbered, List.range_succ]
  obtain ⟨gone, scheduled, none⟩ := h.scheduled
  cases attempted with
  | scheduled next accepted =>
      subst next
      have tickets := (Executor.tickets_submit accepted).map (·.task)
      obtain ⟨opened, -, rfl⟩ := Executor.submit_eq_ok accepted
      refine ⟨h.steady.submit accepted, ?_, ⟨gone, ?_, fun _ => none opened⟩, h.booked,
        h.stopped, ?_⟩
      · rw [List.map_append]
        exact numbered
      · rw [Course.scheduled, List.filter_append, List.map_append]
        refine (List.perm_append_singleton _ _).trans ?_
        exact (scheduled.cons _).trans (tickets.symm.append_right _)
      · rw [List.filterMap_append]
        change c.pushed.Perm ((_ ++ []) ++ _)
        rw [List.append_nil]
        exact h.pushed
  | refused next _ =>
      subst next
      refine ⟨h.steady, ?_, ⟨gone, ?_, none⟩, h.booked, h.stopped, ?_⟩
      · rw [List.map_append]
        exact numbered
      · rw [Course.scheduled, List.filter_append, List.map_append]
        change (c.scheduled ++ []).Perm _
        rw [List.append_nil]
        exact scheduled
      · rw [List.filterMap_append, List.append_assoc]
        refine (h.pushed.append_right _).trans ?_
        rw [List.append_assoc]
        exact List.perm_append_comm.append_left _

theorem Balanced.cutOff (h : c.Balanced) : c.cutOff.Balanced := by
  obtain ⟨gone, scheduled, -⟩ := h.scheduled
  have tickets := c.dispatcher.engine.executor.tickets_interrupt c.dispatcher.clock
    (.error .cancelled)
  refine ⟨h.steady.cutOff _ _, h.numbered, ⟨gone, ?_, nofun⟩,
    h.booked.withExecutor (Executor.running_interrupt _ _ _), fun _ => Nat.succ_pos _, ?_⟩
  · change c.scheduled.Perm
      (List.map _ (Executor.tickets (c.dispatcher.engine.executor.shutDown.interrupt _ _)) ++ _)
    rw [tickets]
    exact scheduled
  · rw [Course.cutOff, goOn_quiet]
    · exact h.pushed
    · rfl

theorem since_finish (now : Nat) (t : Ticket (Delivery σ)) (ending : Ending) (b : Backstage σ) :
    b.failures.since (Delivery.finish now t ending b).failures =
      [(⟨t, now, ending⟩ : Closing (Delivery σ) Ending)].filterMap Closing.record? := by
  cases ending with
  | ok _ => exact FailureLog.since_self _
  | error e => exact FailureLog.since_push _ _

/-- Only what ends is pushed, if it failed. -/
theorem since_of_effect {timeout : Time.Span} {e e' : Engine (Delivery σ) Ending (Backstage σ)}
    (effect : Engine.Effect (Delivery.work timeout) e e')
    {ended : List (Closing (Delivery σ) Ending)} (closings : e'.closings = e.closings ++ ended) :
    e.world.failures.since e'.world.failures = ended.filterMap Closing.record? := by
  unfold Engine.closings at closings
  cases effect with
  | none _ _ history world | left _ _ _ _ history world =>
      rw [history, List.self_eq_append_right] at closings
      rw [world, closings]
      exact FailureLog.since_self _
  | started t _ _ _ history world =>
      rw [history, List.filterMap_append] at closings
      rw [world, ← List.append_cancel_left closings]
      exact FailureLog.since_self _
  | ended r _ _ history world =>
      rw [history, List.filterMap_append] at closings
      rw [world, ← List.append_cancel_left closings]
      exact since_finish _ _ _ _

theorem Balanced.moved (h : c.Balanced) {e : Engine (Delivery σ) Ending (Backstage σ)}
    (move : c.dispatcher.engine.Move (Delivery.work c.dispatcher.timeout) e) :
    (c.goOn { c.dispatcher with engine := e }).Balanced := by
  have effect := move.effect h.steady.numbered
  obtain ⟨gone, scheduled, none⟩ := h.scheduled
  obtain ⟨ended, left, closings, tickets, stay⟩ := effect.parted
  have pushed := since_of_effect effect closings
  refine ⟨move.steady h.steady, h.numbered, ⟨left.map (·.task) ++ gone, ?_, ?_⟩,
    effect.booked h.booked, ?_, ?_⟩
  · refine (scheduled.trans ((tickets.map (·.task)).append_right _)).trans ?_
    change List.Perm _ (_ ++ (e.closings.map _ ++ _))
    rw [closings]
    simp only [List.map_append, List.map_map, List.append_assoc]
    refine List.Perm.append_left _ ?_
    rw [← List.append_assoc, ← List.append_assoc (List.map _ ended)]
    exact List.perm_append_comm_assoc _ _ _
  · intro opened
    have before : c.dispatcher.engine.executor.shut = false := by
      rw [← move.frame.shut]
      exact opened
    rw [stay before, none before]
    rfl
  · intro shut
    exact h.stopped (move.frame.shut.symm.trans shut)
  · change (c.pushed ++ c.dispatcher.engine.world.failures.since e.world.failures).Perm
      (_ ++ e.closings.filterMap _)
    rw [pushed, closings, List.filterMap_append, ← List.append_assoc]
    exact h.pushed.append_right _

theorem Balanced.step (h : c.Balanced) (step : Step c c') : c'.Balanced := by
  cases step with
  | attempted occasion inRuntime registered => exact h.attempted (c.attempted _ _ _)
  | moved move => exact h.moved move
  | cutOff => exact h.cutOff

theorem Balanced.runs (h : c.Balanced) (runs : c.Runs c') : c'.Balanced := by
  induction runs with
  | refl => exact h
  | tail _ step ih => exact ih.step step

theorem balanced_of_new? {settings : DispatcherConfig} {timeout : Time.Span}
    {entries : List (Registration σ)} {world : σ} {d : Dispatcher σ}
    (made : Dispatcher.new? settings timeout entries world = some d) :
    ({ dispatcher := d } : Course σ).Balanced := by
  obtain ⟨executor, new, made⟩ := Option.bind_eq_some_iff.mp made
  cases made
  have steady := Executor.steady_of_new? new
  obtain ⟨-, new⟩ := Option.ite_none_right_eq_some.mp new
  cases new
  exact ⟨steady, rfl, ⟨[], .nil, fun _ => rfl⟩, .nil, nofun, .nil⟩

theorem fresh_of_new? {settings : DispatcherConfig} {timeout : Time.Span}
    {entries : List (Registration σ)} {world : σ} {start : Dispatcher σ}
    (made : Dispatcher.new? settings timeout entries world = some start) :
    start.timeout = timeout ∧ start.world = world ∧ start.engine.history = [] ∧
      start.engine.executor.running = [] := by
  obtain ⟨executor, new, made⟩ := Option.bind_eq_some_iff.mp made
  cases made
  obtain ⟨-, new⟩ := Option.ite_none_right_eq_some.mp new
  cases new
  exact ⟨rfl, rfl, rfl, rfl⟩

end Course
end ProjectDesk
