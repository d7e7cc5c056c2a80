import ProjectDesk.Proofs.Dispatch.Ledger

/-!
What the handlers have done. The world is what the deliveries that have begun have made of it, one
after the other; and every delivery ends as its handler does that was told of it in the world of
that moment, within the timeout, unless shutdown cuts it off.
-/

namespace ProjectDesk

variable {σ : Type}

namespace Delivery

/-- What a delivery makes of the world. -/
def act (world : σ) (d : Delivery σ) : σ :=
  (d.subscriber.handler.handle d.occasion world).2

/-- What a delivery does that starts when a world has been through a history. -/
def performance (world : σ) (before : List (Milestone (Delivery σ) Ending)) (d : Delivery σ) :
    Performance :=
  (d.subscriber.handler.handle d.occasion
    (((before.filterMap Milestone.begun?).map (·.task)).foldl act world)).1

end Delivery

namespace Course

variable {c c' : Course σ} {timeout : Time.Span}

/-- The deliveries that have begun, in this order. -/
def begun (c : Course σ) : List (Delivery σ) :=
  c.dispatcher.engine.begun.map (·.task)

/-! The world. -/

theorem begun_of_effect {e e' : Engine (Delivery σ) Ending (Backstage σ)}
    (effect : Engine.Effect (Delivery.work timeout) e e') :
    ∃ more, e'.begun = e.begun ++ more ∧
      e'.world.world = (more.map (·.task)).foldl Delivery.act e.world.world := by
  unfold Engine.begun
  cases effect with
  | none _ _ history world | left _ _ _ _ history world =>
      exact ⟨[], by simp [history], by rw [world]; rfl⟩
  | started t _ _ _ history world =>
      exact ⟨[t], by simp [history, Milestone.begun?], by rw [world]; rfl⟩
  | ended r _ _ history world =>
      refine ⟨[], by simp [history, Milestone.begun?], ?_⟩
      rw [world]
      change (Delivery.finish _ _ r.result _).world = _
      cases r.result <;> rfl

theorem Step.world (step : c.Step c') (h : c.Balanced) :
    ∃ more, c'.begun = c.begun ++ more ∧
      c'.dispatcher.world = more.foldl Delivery.act c.dispatcher.world := by
  cases step with
  | attempted occasion inRuntime registered =>
      have attempted := c.attempted occasion inRuntime registered
      generalize c.attempt occasion inRuntime registered = c' at attempted
      cases attempted <;> exact ⟨[], (List.append_nil _).symm, rfl⟩
  | moved move =>
      obtain ⟨more, begun, world⟩ := begun_of_effect (move.effect h.steady.numbered)
      refine ⟨more.map Ticket.task, ?_, world⟩
      simp [Course.begun, goOn, begun]
  | cutOff => exact ⟨[], (List.append_nil _).symm, rfl⟩

/-! The results. -/

variable {world : σ} {t : Ticket (Delivery σ)} {result : Ending}

/-- The result of somebody who has started: what the handler comes to that was told of the delivery
after all that had begun before, or that shutdown has cut it off. -/
def OwnResult (timeout : Time.Span) (world : σ) (t : Ticket (Delivery σ)) (result : Ending)
    (c : Course σ) : Prop :=
  ∃ before start after, c.dispatcher.engine.history = before ++ .started t start :: after ∧
    (result = (Delivery.bounded timeout (t.task.performance world before)).2 ∨
      (result = .error .cancelled ∧ 0 < c.shutdowns))

theorem OwnResult.mono (h : c.OwnResult timeout world t result)
    (grown : c.dispatcher.engine.history <+: c'.dispatcher.engine.history)
    (further : c.shutdowns ≤ c'.shutdowns) : c'.OwnResult timeout world t result := by
  obtain ⟨before, start, after, history, own⟩ := h
  obtain ⟨more, grown⟩ := grown
  refine ⟨before, start, after ++ more, ?_, ?_⟩
  · rw [← grown, history, List.append_assoc, List.cons_append]
  · exact own.imp_right fun ⟨cancelled, shut⟩ => ⟨cancelled, Nat.lt_of_lt_of_le shut further⟩

/-- The world is what those have made of it who have begun, and everybody comes to the own result. -/
structure Performed (timeout : Time.Span) (world : σ) (c : Course σ) : Prop where
  limit : c.dispatcher.timeout = timeout
  acted : c.dispatcher.world = c.begun.foldl Delivery.act world
  running : ∀ r ∈ c.dispatcher.engine.executor.running, c.OwnResult timeout world r.ticket r.result
  ended : ∀ x ∈ c.dispatcher.engine.closings, c.OwnResult timeout world x.ticket x.result

theorem Step.shutdowns_le (step : c.Step c') : c.shutdowns ≤ c'.shutdowns := by
  cases step with
  | attempted _ _ _ | moved _ => exact Nat.le_refl _
  | cutOff => exact Nat.le_succ _

/-- Whoever starts now is told of the delivery in the world as it is. -/
theorem performance_now (past : c.dispatcher.world = c.begun.foldl Delivery.act world)
    (d : Delivery σ) :
    d.performance world c.dispatcher.engine.history =
      (d.subscriber.handler.handle d.occasion c.dispatcher.world).1 := by
  rw [past]
  rfl

theorem ownResult_of_started (h : c.Performed timeout world)
    (started : c'.dispatcher.engine.history =
      c.dispatcher.engine.history ++ [.started t c.dispatcher.clock]) :
    c'.OwnResult timeout world t
      ((Delivery.work c.dispatcher.timeout).start c.dispatcher.clock t
        c.dispatcher.engine.world).1.2 := by
  refine ⟨_, _, [], started, .inl ?_⟩
  rw [performance_now h.acted, ← h.limit]
  rfl

theorem Performed.moved (h : c.Performed timeout world) (balanced : c.Balanced)
    {e : Engine (Delivery σ) Ending (Backstage σ)}
    (move : c.dispatcher.engine.Move (Delivery.work c.dispatcher.timeout) e) :
    let c' := c.goOn { c.dispatcher with engine := e }
    (∀ r ∈ e.executor.running, c'.OwnResult timeout world r.ticket r.result) ∧
      ∀ x ∈ e.closings, c'.OwnResult timeout world x.ticket x.result := by
  intro c'
  have effect := move.effect balanced.steady.numbered
  have running : ∀ r ∈ c.dispatcher.engine.executor.running,
      c'.OwnResult timeout world r.ticket r.result :=
    fun r hr => (h.running r hr).mono effect.history_prefix (Nat.le_refl _)
  have ended : ∀ x ∈ c.dispatcher.engine.closings, c'.OwnResult timeout world x.ticket x.result :=
    fun x hx => (h.ended x hx).mono effect.history_prefix (Nat.le_refl _)
  unfold Engine.closings at ended ⊢
  cases effect with
  | none _ same history _ =>
      rw [history]
      exact ⟨fun r hr => running r (same.subset hr), ended⟩
  | left _ _ _ same history _ =>
      rw [history, same]
      exact ⟨running, ended⟩
  | started t _ _ joined history _ =>
      rw [history, joined, List.filterMap_append]
      refine ⟨?_, ?_⟩
      · intro r hr
        rcases List.mem_append.mp hr with earlier | new
        · exact running r earlier
        · rw [List.mem_singleton.mp new]
          exact ownResult_of_started h history
      · intro x hx
        rcases List.mem_append.mp hx with earlier | none
        · exact ended x earlier
        · cases none
  | ended r _ gone history _ =>
      rw [history, List.filterMap_append]
      refine ⟨fun r' hr => running r' (gone.symm.subset (.tail _ hr)), ?_⟩
      intro x hx
      rcases List.mem_append.mp hx with earlier | new
      · exact ended x earlier
      · obtain rfl : x = ⟨r.ticket, c.dispatcher.engine.clock, r.result⟩ :=
          List.mem_singleton.mp new
        exact running r (gone.symm.subset (.head _))

theorem Performed.step (h : c.Performed timeout world) (balanced : c.Balanced)
    (step : c.Step c') : c'.Performed timeout world := by
  have follows := step.follows balanced
  have later := step.shutdowns_le
  obtain ⟨more, begun, acted⟩ := step.world balanced
  have acted : c'.dispatcher.world = c'.begun.foldl Delivery.act world := by
    rw [acted, begun, h.acted, List.foldl_append]
  suffices results :
      (∀ r ∈ c'.dispatcher.engine.executor.running, c'.OwnResult timeout world r.ticket r.result) ∧
        ∀ x ∈ c'.dispatcher.engine.closings, c'.OwnResult timeout world x.ticket x.result from
    ⟨step.timeout.trans h.limit, acted, results.1, results.2⟩
  cases step with
  | attempted occasion inRuntime registered =>
      have attempted := c.attempted occasion inRuntime registered
      generalize c.attempt occasion inRuntime registered = c' at attempted follows later
      refine ⟨fun r hr => (h.running r ?_).mono follows.history later,
        fun x hx => (h.ended x ?_).mono follows.history later⟩
      · cases attempted with
        | scheduled _ accepted =>
            obtain ⟨-, -, rfl⟩ := Executor.submit_eq_ok accepted
            exact hr
        | refused _ _ => exact hr
      · cases attempted <;> exact hx
  | moved move => exact h.moved balanced move
  | cutOff =>
      refine ⟨?_, fun x hx => (h.ended x hx).mono follows.history later⟩
      intro r hr
      obtain ⟨own, ran, rfl⟩ := List.mem_map.mp hr
      obtain ⟨before, start, after, history, -⟩ := h.running own ran
      exact ⟨before, start, after, history, .inr ⟨rfl, Nat.succ_pos _⟩⟩

theorem Performed.runs (h : c.Performed timeout world) (balanced : c.Balanced)
    (runs : c.Runs c') : c'.Performed timeout world := by
  induction runs with
  | refl => exact h
  | tail runs step ih => exact ih.step (balanced.runs runs) step

theorem performed_of_new? {settings : DispatcherConfig} {entries : List (Registration σ)}
    {start : Dispatcher σ}
    (made : Dispatcher.new? settings timeout entries world = some start) :
    ({ dispatcher := start } : Course σ).Performed timeout world := by
  obtain ⟨own, unchanged, nothing, nobody⟩ := fresh_of_new? made
  refine ⟨own, ?_, ?_, ?_⟩
  · rw [begun, Engine.begun, nothing]
    exact unchanged
  · intro r hr
    rw [nobody] at hr
    cases hr
  · intro x hx
    rw [Engine.closings, nothing] at hx
    cases hx

end Course
end ProjectDesk
