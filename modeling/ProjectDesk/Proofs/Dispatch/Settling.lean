import ProjectDesk.Proofs.Dispatch.Schedule

/-!
Everything that can happen at one moment happens after finitely many moves: each takes somebody
nearer to its end, so that the load goes down. What is left then has nothing due and nobody called.
-/

namespace ProjectDesk

namespace Executor

variable {τ ρ : Type} {x x' : Executor τ ρ} {t : Ticket τ} {r : Running τ ρ}

theorem callsLoad_append (calls more : List (Called τ)) :
    callsLoad (calls ++ more) = callsLoad calls + callsLoad more := by
  induction calls with
  | nil => exact (Nat.zero_add _).symm
  | cons c rest ih =>
      simp only [List.cons_append, callsLoad, ih]
      omega

theorem length_le_callsLoad (calls : List (Called τ)) : calls.length ≤ callsLoad calls := by
  induction calls with
  | nil => exact Nat.le_refl _
  | cons c rest ih =>
      have positive : 1 ≤ Stage.load c.stage := by
        cases c.stage <;> decide
      simp only [List.length_cons, callsLoad]
      omega

theorem load_call (t : Ticket τ) (stage : Stage) (x : Executor τ ρ) :
    (call t stage x).load = x.load + Stage.load stage := by
  simp only [load, call, callsLoad_append, callsLoad]
  omega

theorem load_passSlot (x : Executor τ ρ) : x.passSlot.load ≤ x.load := by
  unfold passSlot
  split
  · exact Nat.le_refl _
  · rename_i t rest line
    rw [load_call]
    simp only [load, line, List.length_cons, Stage.load]
    omega

theorem load_passGate (gate : Option Nat) (x : Executor τ ρ) : (x.passGate gate).load ≤ x.load := by
  unfold passGate
  split
  · exact Nat.le_refl _
  · split
    · exact Nat.le_refl _
    · rename_i g t found
      have line := (perm_cons_eraseP found).length_eq
      rw [List.length_cons] at line
      rw [load_call]
      simp only [load, line, Stage.load]
      omega

theorem load_finish (hr : r ∈ x.running) : (x.finish r).load < x.load := by
  have gone : (x.vacate r).running.length + 1 = x.running.length := by
    have positive := List.length_pos_of_mem hr
    rw [vacate, List.length_eraseP_of_mem hr (by simp)]
    omega
  have lighter : (x.vacate r).load + 1 = x.load := by
    simp only [load, ← gone]
    rfl
  have slot := load_passSlot (x.vacate r)
  have gate := load_passGate r.ticket.gate (x.vacate r).passSlot
  rw [finish_eq]
  omega

theorem load_withdraw (waiting : x.queued ≠ []) : x.withdraw.load < x.load := by
  have called := length_le_callsLoad x.called
  have some : 0 < x.queued.length := List.length_pos_iff.mpr waiting
  simp only [queued, List.length_append, List.length_map] at some
  simp only [withdraw, load, callsLoad, List.length_nil]
  omega

/-- Even with one more running, if it starts. -/
theorem Moved.load {stage : Stage} {started : Option (Ticket τ)} (h : Moved x stage t started x') :
    x'.load + (if started.isSome then 1 else 0) < x.load + Stage.load stage := by
  cases h with
  | starts _ => cases stage <;> simp [Stage.load]
  | waitsForSlot without _ =>
      simp only [Executor.load, List.length_append, List.length_singleton]
      cases stage with
      | slotted => exact absurd rfl without
      | fresh | gated =>
          simp only [Stage.load, Option.isSome_none, Bool.false_eq_true, if_false]
          omega
  | waitsForGate _ =>
      simp only [Executor.load, List.length_append, List.length_singleton, Stage.load,
        Option.isSome_none, Bool.false_eq_true, if_false]
      omega

theorem load_of_called {stage : Stage} {rest : List (Called τ)}
    (h : x.called = ⟨t, stage⟩ :: rest) :
    x.load = { x with called := rest }.load + Stage.load stage := by
  simp only [load, h, callsLoad]
  omega

end Executor

namespace Engine

variable {τ ρ σ : Type} {work : Work τ ρ σ} {e e' : Engine τ ρ σ}

theorem load_step? (h : e.step? work = some e') : e'.executor.load < e.executor.load := by
  cases step?_eq_some h with
  | withdrew _ waiting => exact Executor.load_withdraw waiting
  | ended running _ => exact Executor.load_finish running
  | waited _ turn =>
      obtain ⟨stage, t, rest, called, moved⟩ := Executor.turn?_eq_some turn
      rw [Executor.load_of_called called]
      exact moved.load
  | started _ turn =>
      obtain ⟨stage, t, rest, called, moved⟩ := Executor.turn?_eq_some turn
      have lighter := moved.load
      rw [Executor.load_of_called called]
      simp only [Engine.start, Executor.start, Executor.load, List.length_append,
        List.length_singleton, Option.isSome_some, if_true] at lighter ⊢
      exact lighter

theorem step?_steps {fuel : Nat} (enough : e.executor.load ≤ fuel) :
    (e.steps work fuel).step? work = none := by
  induction fuel generalizing e with
  | zero =>
      cases step : e.step? work with
      | none => exact step
      | some next =>
          have lighter := load_step? step
          omega
  | succ fuel ih =>
      unfold steps
      split
      · assumption
      · rename_i next step
        have lighter := load_step? step
        exact ih (by omega)

theorem step?_settle (e : Engine τ ρ σ) : (e.settle work).step? work = none :=
  step?_steps (Nat.le_refl _)

/-- What it means that nothing more can happen at a moment. -/
theorem step?_eq_none (h : e.step? work = none) :
    (e.executor.shut = true → e.executor.queued = []) ∧
      (∀ r ∈ e.executor.running, e.clock < r.due) ∧ e.executor.called = [] := by
  unfold step? at h
  split at h
  · cases h
  · rename_i staying
    refine ⟨?_, ?_, ?_⟩
    · intro shut
      simpa [shut] using staying
    · split at h
      · cases h
      · rename_i nothingDue
        intro r hr
        simpa using List.find?_eq_none.mp nothingDue r hr
    · split at h
      · cases h
      · split at h
        · rename_i nobody
          exact Executor.turn?_eq_none.mp nobody
        · cases h
        · cases h

theorem clock_step? (h : e.step? work = some e') : e'.clock = e.clock := by
  cases step?_eq_some h <;> rfl

theorem clock_steps (fuel : Nat) (e : Engine τ ρ σ) : (e.steps work fuel).clock = e.clock := by
  induction fuel generalizing e with
  | zero => rfl
  | succ fuel ih =>
      unfold steps
      split
      · rfl
      · rename_i next step
        rw [ih next, clock_step? step]

theorem clock_settle (work : Work τ ρ σ) (e : Engine τ ρ σ) : (e.settle work).clock = e.clock :=
  clock_steps _ e

theorem nextDue?_settle {time : Nat} (next : (e.settle work).executor.nextDue? = some time) :
    e.clock < time ∧ ∃ r ∈ (e.settle work).executor.running, r.due = time := by
  have member := List.min?_mem next
  obtain ⟨r, hr, rfl⟩ := List.mem_map.mp member
  have later := (step?_eq_none (step?_settle e)).2.1 r hr
  rw [clock_settle] at later
  exact ⟨later, r, hr, rfl⟩

theorem goes_runFor (limit : Option Nat) (fuel : Nat) (e : Engine τ ρ σ) :
    Relation.ReflTransGen (Goes work) e (e.runFor work limit fuel) := by
  induction fuel generalizing e with
  | zero => exact .refl
  | succ fuel ih =>
      have settled : Relation.ReflTransGen (Goes work) e (e.settle work) := goes_steps _ e
      unfold runFor
      dsimp only
      split
      · exact settled
      · rename_i time next
        split
        · have later := (nextDue?_settle next).1
          rw [← clock_settle work e] at later
          exact (settled.tail (.waited (Nat.le_of_lt later))).trans (ih _)
        · exact settled

theorem clock_runFor {limit fuel : Nat} (within : e.clock ≤ limit) :
    (e.runFor work (some limit) fuel).clock ≤ limit := by
  induction fuel generalizing e with
  | zero => exact within
  | succ fuel ih =>
      unfold runFor
      dsimp only
      split
      · rw [clock_settle]
        exact within
      · split
        · rename_i inTime
          exact ih (by simpa [Engine.within] using inTime)
        · rw [clock_settle]
          exact within

theorem goes_advance (ms : Nat) (e : Engine τ ρ σ) :
    Relation.ReflTransGen (Goes work) e (e.advance work ms) :=
  (goes_runFor _ _ e).tail (.waited (clock_runFor (Nat.le_add_right _ _)))

theorem goes_drain (e : Engine τ ρ σ) : Relation.ReflTransGen (Goes work) e (e.drain work) :=
  goes_runFor _ _ e

end Engine
end ProjectDesk
