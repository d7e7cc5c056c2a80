import ProjectDesk.Proofs.Dispatch.Performed

/-!
Courses without shutdown. Everything that is attempted is accepted, and has begun once nobody is
left.
-/

namespace ProjectDesk.Course

variable {σ : Type} {c c' : Course σ}

theorem Balanced.not_shut (h : c.Balanced) (never : c.shutdowns = 0) :
    c.dispatcher.engine.executor.shut = false := by
  cases shut : c.dispatcher.engine.executor.shut with
  | false => rfl
  | true => exact absurd never (Nat.ne_of_gt (h.stopped shut))

theorem attempt_accepted (opened : c.dispatcher.engine.executor.shut = false) (o : Occasion)
    (registered : RegisteredHandler σ) :
    (c.dispatcher.attempt o true registered).refusal? = none ∧
      (c.attempt o true registered).dispatcher.engine.executor.shut = false := by
  cases submitted : c.dispatcher.engine.executor.submit registered.lock
      ⟨c.dispatcher.attempted, registered.subscriber, o⟩ true with
  | ok x =>
      obtain ⟨deliver, attempt⟩ := Dispatcher.deliver_of_submit submitted
      obtain ⟨-, -, rfl⟩ := Executor.submit_eq_ok submitted
      rw [Course.attempt, deliver, attempt]
      exact ⟨rfl, opened⟩
  | error refusal => simp [Executor.submit, opened] at submitted

theorem attemptAll_accepted (opened : c.dispatcher.engine.executor.shut = false) (o : Occasion)
    (entries : List (RegisteredHandler σ)) (before : ∀ a ∈ c.attempts, a.refusal? = none) :
    ∀ a ∈ (c.attemptAll o true entries).attempts, a.refusal? = none := by
  induction entries generalizing c with
  | nil => exact before
  | cons registered rest ih =>
      obtain ⟨accepted, opened⟩ := attempt_accepted opened o registered
      refine ih opened ?_
      intro a ha
      rcases List.mem_append.mp ha with ha | ha
      · exact before a ha
      · rw [List.mem_singleton.mp ha]
        exact accepted

theorem Balanced.scheduled_begun (h : c.Balanced) (never : c.shutdowns = 0)
    (idle : c.dispatcher.inFlight = 0) :
    c.scheduled.Perm c.begun := by
  obtain ⟨gone, places, none⟩ := h.places
  obtain ⟨queued, -⟩ := Nat.add_eq_zero_iff.mp idle
  rw [none (h.not_shut never), List.length_eq_zero_iff.mp queued] at places
  simpa [begun] using places

end ProjectDesk.Course
