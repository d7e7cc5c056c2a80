import ProjectDesk.Proofs.Dispatch.DeliveryLedger

/-!
What becomes of everybody at shutdown. Whoever is running is cut off and recorded, and whoever comes
later is refused and recorded. Whoever was scheduled and still waits leaves without a record.
-/

namespace ProjectDesk.Course

variable {σ : Type} {c c' c'' : Course σ}

/-- What holds after shutdown, as long as anybody is left and later on. -/
structure Stopped (c c' : Course σ) : Prop where
  shut : c'.dispatcher.engine.executor.shut = true
  running : ∀ r ∈ c'.dispatcher.engine.executor.running, r.result = .error .cancelled
  closings : ∃ ended, c'.dispatcher.engine.closings = c.dispatcher.engine.closings ++ ended ∧
    ∀ x ∈ ended, x.result = .error .cancelled
  attempts : ∃ more, c'.attempts = c.attempts ++ more ∧
    ∀ a ∈ more, a.refusal? = some .shutDown

theorem result_of_interrupt {x : Executor (Delivery σ) Ending} {now : Nat}
    {r : Running (Delivery σ) Ending}
    (hr : r ∈ (x.shutDown.interrupt now (.error .cancelled)).running) :
    r.result = .error .cancelled := by
  obtain ⟨r, -, rfl⟩ := List.mem_map.mp hr
  rfl

/-- Whoever comes after shutdown is refused. -/
theorem Stopped.attempted {occasion : Occasion} {inRuntime : Bool}
    {registered : RegisteredHandler σ} (h : c.Stopped c')
    (attempted : c'.Attempted occasion inRuntime registered c'') : c.Stopped c'' := by
  cases attempted with
  | scheduled _ accepted => exact absurd h.shut (by simp [(Executor.submit_eq_ok accepted).1])
  | @refused d refusal _ rejected =>
      rw [Executor.submit, if_pos h.shut] at rejected
      cases rejected
      obtain ⟨more, attempts, refused⟩ := h.attempts
      refine ⟨h.shut, h.running, h.closings,
        more ++ [⟨d, c'.dispatcher.clock, some .shutDown⟩], ?_, ?_⟩
      · rw [attempts, List.append_assoc]
      · intro a ha
        rcases List.mem_append.mp ha with ha | ha
        · exact refused a ha
        · rw [List.mem_singleton.mp ha]

theorem Stopped.moved (h : c.Stopped c') (balanced : c'.Balanced)
    {e : Engine (Delivery σ) Ending (Backstage σ)}
    (move : c'.dispatcher.engine.Move (Delivery.work c'.dispatcher.timeout) e) :
    c.Stopped (c'.goOn { c'.dispatcher with engine := e }) := by
  obtain ⟨ended, closings, cancelled⟩ := h.closings
  refine ⟨move.frame.shut.trans h.shut, ?_, ?_, h.attempts⟩
  · change ∀ r ∈ e.executor.running, r.result = _
    intro r hr
    cases move.effect balanced.steady.numbered with
    | none _ running _ _ => exact h.running r (running.subset hr)
    | left _ _ _ running _ _ =>
        rw [running] at hr
        exact h.running r hr
    | started _ opened _ _ _ _ => exact absurd h.shut (by simp [opened])
    | ended _ _ running _ _ => exact h.running r (running.symm.subset (.tail _ hr))
  · change ∃ ended, e.closings = _ ++ ended ∧ _
    unfold Engine.closings at closings ⊢
    cases move.effect balanced.steady.numbered with
    | none _ _ history _ | left _ _ _ _ history _ =>
        rw [history]
        exact ⟨ended, closings, cancelled⟩
    | started _ opened _ _ _ _ => exact absurd h.shut (by simp [opened])
    | ended r _ running history _ =>
        refine ⟨ended ++ [⟨r.ticket, c'.dispatcher.engine.clock, r.result⟩], ?_, ?_⟩
        · rw [history, List.filterMap_append, closings, List.append_assoc]
          rfl
        · intro x hx
          rcases List.mem_append.mp hx with hx | hx
          · exact cancelled x hx
          · rw [List.mem_singleton.mp hx]
            exact h.running r (running.symm.subset (.head _))

theorem Stopped.cutOff (h : c.Stopped c') : c.Stopped c'.cutOff := by
  refine ⟨rfl, ?_, h.closings, h.attempts⟩
  intro r hr
  exact result_of_interrupt hr

theorem Stopped.step (h : c.Stopped c') (balanced : c'.Balanced) (step : c'.Step c'') :
    c.Stopped c'' := by
  cases step with
  | attempted occasion inRuntime registered => exact h.attempted (c'.attempted _ _ _)
  | moved move => exact h.moved balanced move
  | cutOff => exact h.cutOff

theorem Stopped.runs (h : c.Stopped c') (balanced : c'.Balanced) (runs : c'.Runs c'') :
    c.Stopped c'' := by
  induction runs with
  | refl => exact h
  | tail runs step ih => exact ih.step (balanced.runs runs) step

theorem stopped_cutOff (c : Course σ) : c.Stopped c.cutOff := by
  refine ⟨rfl, ?_, ⟨[], (List.append_nil _).symm, ?_⟩, [], (List.append_nil _).symm, ?_⟩
  · intro r hr
    exact result_of_interrupt hr
  · simp
  · simp

theorem Balanced.queued_not_begun (h : c.Balanced) {t : Ticket (Delivery σ)}
    (ht : t ∈ c.dispatcher.engine.executor.queued) :
    t.task ∈ c.scheduled ∧ c.invocations t.task.id = 0 := by
  constructor
  · obtain ⟨gone, scheduled, -⟩ := h.places
    exact scheduled.symm.subset (List.mem_append_left _ (List.mem_map_of_mem ht))
  · obtain ⟨gone, ids⟩ := h.scheduled_perm
    have distinct := ids.nodup_iff.mp (List.nodup_append.mp h.distinct).2.1
    refine List.count_eq_zero.mpr fun begun => ?_
    exact (List.nodup_append.mp distinct).2.2 _ (List.mem_map.mpr ⟨t, ht, rfl⟩) _
      (List.mem_append_left _ begun) rfl

/-- Whoever waits at shutdown is never heard of again. -/
theorem Balanced.queued_lost (h : c.Balanced) (further : c.cutOff.Runs c')
    {t : Ticket (Delivery σ)} (ht : t ∈ c.dispatcher.engine.executor.queued) :
    c'.invocations t.task.id = 0 ∧ c'.recordsOf t.task.id = [] := by
  obtain ⟨scheduled, waits⟩ := h.queued_not_begun ht
  exact h.cutOff.never_begun further rfl scheduled waits

/-- Whoever runs at shutdown is cut off: it is about to end so, or has. -/
theorem Balanced.cut (h : c.Balanced) (further : c.cutOff.Runs c')
    {r : Running (Delivery σ) Ending} (hr : r ∈ c.dispatcher.engine.executor.running) :
    (∃ r' ∈ c'.dispatcher.engine.executor.running,
      r'.ticket = r.ticket ∧ r'.result = .error .cancelled) ∨
    ∃ x ∈ c'.dispatcher.engine.closings,
      x.ticket = r.ticket ∧ x.result = .error .cancelled := by
  have later := h.cutOff.runs further
  have stopped := (stopped_cutOff c).runs h.cutOff further
  have begun : r.ticket ∈ c'.dispatcher.engine.begun := by
    rw [((h.cutOff.follows further).begun rfl).2]
    exact h.booked.symm.subset (List.mem_append_left _ (List.mem_map_of_mem hr))
  rcases List.mem_append.mp (later.booked.subset begun) with running | closed
  · obtain ⟨r', hr', same⟩ := List.mem_map.mp running
    exact .inl ⟨r', hr', same, stopped.running r' hr'⟩
  · obtain ⟨x, hx, same⟩ := List.mem_map.mp closed
    refine .inr ⟨x, hx, same, ?_⟩
    obtain ⟨ended, closings, cancelled⟩ := stopped.closings
    rw [closings] at hx
    rcases List.mem_append.mp hx with before | after
    · have distinct := (h.booked.map (·.task.id)).nodup_iff.mp h.begun_nodup
      rw [List.map_append] at distinct
      refine absurd rfl ((List.nodup_append.mp distinct).2.2 r.ticket.task.id ?_ _ ?_)
      · exact List.mem_map_of_mem (List.mem_map_of_mem hr)
      · rw [← same]
        exact List.mem_map_of_mem (List.mem_map_of_mem before)
    · exact cancelled x after

/-- Whoever runs at shutdown has been cut off by the time that nobody is left. -/
theorem Balanced.running_cutOff (h : c.Balanced) (further : c.cutOff.Runs c')
    (idle : c'.dispatcher.inFlight = 0) {r : Running (Delivery σ) Ending}
    (hr : r ∈ c.dispatcher.engine.executor.running) :
    ∃ x ∈ c'.dispatcher.engine.closings,
      x.ticket = r.ticket ∧ x.result = .error .cancelled := by
  obtain ⟨-, nobody⟩ := Nat.add_eq_zero_iff.mp idle
  rw [List.length_eq_zero_iff] at nobody
  rcases h.cut further hr with ⟨r', hr', -⟩ | ended
  · rw [nobody] at hr'
    cases hr'
  · exact ended

/-- Only those who run at shutdown, and those who come later, are recorded. So nobody is lost just
when nobody waits. -/
theorem shutdown_records {settings : DispatcherConfig} {timeout : Time.Span}
    {entries : List (Registration σ)} {world : σ} {start : Dispatcher σ}
    (made : Dispatcher.new? settings timeout entries world = some start)
    (before : Runs { dispatcher := start } c) :
    (∃ c', c.cutOff.Call c.dispatcher.shutDown [] 0 c' ∧ c'.dispatcher.inFlight = 0) ∧
    ∀ c', c.cutOff.Runs c' → c'.dispatcher.inFlight = 0 →
      (∀ t ∈ c.dispatcher.engine.executor.queued,
        t.task ∈ c.scheduled ∧ c'.invocations t.task.id = 0 ∧ c'.recordsOf t.task.id = []) ∧
      (∀ r ∈ c.dispatcher.engine.executor.running, ∃ now,
        c'.recordsOf r.ticket.task.id =
          [r.ticket.task.failure HandlerError.cancelled.message now]) ∧
      (∃ more, c'.attempts = c.attempts ++ more ∧ ∀ a ∈ more,
        c'.recordsOf a.delivery.id = [a.delivery.failure Refusal.shutDown.message a.time]) ∧
      ((∀ t ∈ c.dispatcher.engine.executor.queued,
        ∃ record, c'.recordsOf t.task.id = [record]) ↔
          c.dispatcher.engine.executor.queued = []) := by
  have balanced : c.Balanced := (balanced_of_new? made).runs before
  constructor
  · obtain ⟨c', call⟩ := c.call_shutDown
    refine ⟨c', call, ?_⟩
    rw [call.dispatcher]
    exact inFlight_shutDown balanced
  · intro c' further idle
    have later := balanced.cutOff.runs further
    refine ⟨?_, ?_, ?_, ?_⟩
    · intro t ht
      exact ⟨(balanced.queued_not_begun ht).1, balanced.queued_lost further ht⟩
    · intro r hr
      obtain ⟨x, hx, same, cancelled⟩ := balanced.running_cutOff further idle hr
      have records := later.recordsOf_closing hx
      rw [same, Closing.record?, cancelled] at records
      exact ⟨x.time, by rw [records, same]; rfl⟩
    · obtain ⟨more, attempts, refused⟩ :=
        ((stopped_cutOff c).runs balanced.cutOff further).attempts
      refine ⟨more, attempts, ?_⟩
      intro a ha
      refine later.recordsOf_attempt ?_ (refused a ha)
      rw [attempts]
      exact List.mem_append_right _ ha
    · constructor
      · intro all
        refine List.eq_nil_iff_forall_not_mem.mpr fun t ht => ?_
        obtain ⟨record, only⟩ := all t ht
        rw [(balanced.queued_lost further ht).2] at only
        cases only
      · intro nobody t ht
        rw [nobody] at ht
        cases ht

/-- Two events for a handler that is slow and takes one at a time. -/
theorem one_waits : ∃ (start : Dispatcher Unit) (c : Course Unit),
    Dispatcher.new? {} (.ofSeconds 60) [⟨Topic.approveRequest, failing 500⟩] () = some start ∧
      Runs { dispatcher := start } c ∧
      (∃ t ∈ c.dispatcher.engine.executor.queued, t.task.id = 1) ∧
      ∃ r ∈ c.dispatcher.engine.executor.running, r.ticket.task.id = 0 := by
  obtain ⟨start, made⟩ : ∃ start, Dispatcher.new? {} (.ofSeconds 60)
      [⟨Topic.approveRequest, failing 500⟩] () = some start := ⟨_, rfl⟩
  have publish (c : Course Unit) := c.call_publish "root" Topic.approveRequest
    (.approveRequest ⟨Topic.approveRequest, 1, "alpha", 1, "root", ⟨⟨2026, 6, 1⟩, 12, 0, 0, 0⟩⟩)
    true
  obtain ⟨first, tried, once, -⟩ := publish { dispatcher := start }
  obtain ⟨second, tried', twice, -⟩ := publish first
  obtain ⟨c, advanced⟩ := second.call_advance 0
  refine ⟨start, c, made, (once.runs.trans twice.runs).trans advanced.runs, ?_⟩
  rw [advanced.dispatcher, twice.dispatcher, once.dispatcher]
  cases made
  exact ⟨⟨_, .head _, rfl⟩, _, .head _, rfl⟩

theorem shutdown_records_running : ∃ (c c' : Course Unit), c.cutOff.Runs c' ∧
    c'.dispatcher.inFlight = 0 ∧ c'.invocations 1 = 0 ∧ c'.recordsOf 1 = [] ∧
      ∃ record, c'.recordsOf 0 = [record] ∧ record.error = "Handler cancelled by shutdown" := by
  obtain ⟨start, c, made, before, ⟨t, waits, one⟩, r, runs, zero⟩ := one_waits
  obtain ⟨⟨c', further, idle⟩, records⟩ := shutdown_records made before
  obtain ⟨lost, cutOff, -⟩ := records c' further.runs idle
  obtain ⟨-, never, none⟩ := lost t waits
  obtain ⟨now, only⟩ := cutOff r runs
  rw [one] at never none
  rw [zero] at only
  exact ⟨c, c', further.runs, idle, never, none, _, only, rfl⟩

/-- A delivery that was scheduled can be lost without a record. -/
theorem waiting_lost_at_shutdown : ¬∀ (settings : DispatcherConfig) (timeout : Time.Span)
    (entries : List (Registration Unit)) (start : Dispatcher Unit) (c c' : Course Unit),
    Dispatcher.new? settings timeout entries () = some start → Runs { dispatcher := start } c →
      c.cutOff.Runs c' → c'.dispatcher.inFlight = 0 →
        ∀ t ∈ c.dispatcher.engine.executor.queued,
          ∃ record, c'.recordsOf t.task.id = [record] := by
  intro always
  obtain ⟨start, c, made, before, ⟨t, waits, -⟩, -⟩ := one_waits
  have balanced : c.Balanced := (balanced_of_new? made).runs before
  obtain ⟨c', further⟩ := c.call_shutDown
  have idle : c'.dispatcher.inFlight = 0 := by
    rw [further.dispatcher]
    exact inFlight_shutDown balanced
  obtain ⟨record, only⟩ := always _ _ _ start c c' made before further.runs idle t waits
  rw [(balanced.queued_lost further.runs waits).2] at only
  cases only

end ProjectDesk.Course
