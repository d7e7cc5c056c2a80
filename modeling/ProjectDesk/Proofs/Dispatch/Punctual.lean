import ProjectDesk.Proofs.Dispatch.Progress

/-!
Engines in which time stands still as long as anybody is called, and does not pass over an end.
Whoever runs in such a one ends at the very moment that was foreseen at the start. The engine's own
course is one of this kind.
-/

namespace ProjectDesk.Engine

variable {τ ρ σ : Type} {work : Work τ ρ σ} {e e' : Engine τ ρ σ} {r : Running τ ρ}

/-- Nobody should have ended earlier. -/
def UpToDate (e : Engine τ ρ σ) : Prop :=
  ∀ r ∈ e.executor.running, e.clock ≤ r.due

structure Punctual (e e' : Engine τ ρ σ) : Prop where
  still : e.clock < e'.clock → e.executor.called = []
  upToDate : e'.UpToDate

theorem Move.clock_le (h : Move work e e') : e.clock ≤ e'.clock := by
  cases h with
  | waited later => exact later
  | reordered _ _ _ _ | waits _ _ | starts _ _ | ends _ _ | leave _ _ _ _ => exact Nat.le_refl _

/-- Whoever starts now runs, and what comes of it is settled. -/
theorem Move.started {t : Ticket τ} {time : Nat} (h : Move work e e')
    (started : e'.history = e.history ++ [.started t time]) :
    time = e.clock ∧ ⟨t, e.clock + (work.start e.clock t e.world).1.1,
      (work.start e.clock t e.world).1.2⟩ ∈ e'.executor.running := by
  cases h with
  | reordered _ _ _ _ | waits _ _ | leave _ _ _ _ | waited _ => simp at started
  | starts _ _ =>
      cases List.append_cancel_left started
      exact ⟨rfl, List.mem_append_right _ (.head _)⟩
  | ends _ _ => cases List.append_cancel_left started

theorem Move.ended {t : Ticket τ} {time : Nat} {result : ρ} (h : Move work e e')
    (ended : e'.history = e.history ++ [.ended t time result]) :
    time = e.clock ∧ ∃ r ∈ e.executor.running, r.ticket = t ∧ e' = e.finish work r := by
  cases h with
  | reordered _ _ _ _ | waits _ _ | leave _ _ _ _ | waited _ => simp at ended
  | starts _ _ => cases List.append_cancel_left ended
  | ends running _ =>
      cases List.append_cancel_left ended
      exact ⟨rfl, _, running, rfl, rfl⟩

/-! The engine's own course. -/

theorem Stepped.clock (h : Stepped work e e') : e'.clock = e.clock := by
  cases h <;> rfl

theorem Stepped.upToDate (h : Stepped work e e') (current : e.UpToDate) : e'.UpToDate := by
  cases h with
  | withdrew _ _ => exact current
  | ended _ _ =>
      intro r hr
      rw [finish, Executor.running_finish] at hr
      exact current r (List.eraseP_subset hr)
  | waited _ turn =>
      obtain ⟨stage, t, rest, -, moved⟩ := Executor.turn?_eq_some turn
      rw [UpToDate, moved.frame.2]
      exact current
  | started _ turn =>
      obtain ⟨stage, t, rest, -, moved⟩ := Executor.turn?_eq_some turn
      intro r hr
      rcases List.mem_append.mp hr with before | now
      · rw [moved.frame.2] at before
        exact current r before
      · rw [List.mem_singleton.mp now]
        exact Nat.le_add_right _ _

end ProjectDesk.Engine
