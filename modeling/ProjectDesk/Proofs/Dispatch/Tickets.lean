import Mathlib.Data.List.Nodup
import ProjectDesk.Dispatch.Executor

/-!
Where the tickets of an executor are. Handing on a slot or a gate only moves somebody who waits, so
that the tickets in the queues stay the same up to their order; one leaves them for the running ones
when it starts, and one leaves the running ones when it ends.
-/

namespace ProjectDesk

theorem perm_cons_eraseP {α : Type} {test : α → Bool} {a : α} {xs : List α}
    (h : xs.find? test = some a) : xs.Perm (a :: xs.eraseP test) := by
  obtain ⟨passes, before, after, rfl, others⟩ := List.find?_eq_some_iff_append.mp h
  have skipped : ∀ b ∈ before, ¬test b = true := by
    intro b hb
    simpa using others b hb
  rw [List.eraseP_append_right _ skipped, List.eraseP_cons_of_pos passes]
  exact List.perm_middle

namespace Executor

variable {τ ρ : Type} {x x' : Executor τ ρ} {t : Ticket τ} {r : Running τ ρ}

/-- The tickets of all that were accepted and have not ended. -/
def tickets (x : Executor τ ρ) : List (Ticket τ) :=
  x.queued ++ x.running.map (·.ticket)

theorem length_tickets (x : Executor τ ρ) : x.tickets.length = x.inFlight := by
  simp [tickets, inFlight]

theorem queued_call (t : Ticket τ) (stage : Stage) (x : Executor τ ρ) :
    (call t stage x).queued = x.queued ++ [t] := by
  simp [call, queued]

/-! Accepting. -/

theorem submit_eq_ok {gate : Option Nat} {task : τ} {inRuntime : Bool}
    (h : x.submit gate task inRuntime = .ok x') :
    x.shut = false ∧ inRuntime = true ∧
      x' = { call ⟨x.issued, gate, task⟩ .fresh x with issued := x.issued + 1 } := by
  unfold submit at h
  split at h
  · cases h
  · rename_i opened
    split at h
    · cases h
    · rename_i inside
      exact ⟨Bool.not_eq_true _ ▸ opened, by simpa using inside, (Except.ok.inj h).symm⟩

theorem tickets_submit {gate : Option Nat} {task : τ} {inRuntime : Bool}
    (accepted : x.submit gate task inRuntime = .ok x') :
    x'.tickets.Perm (⟨x.issued, gate, task⟩ :: x.tickets) := by
  obtain ⟨-, -, rfl⟩ := submit_eq_ok accepted
  change ((call ⟨x.issued, gate, task⟩ .fresh x).queued ++ _).Perm _
  rw [queued_call, List.append_assoc]
  exact List.perm_middle

/-! Moving on. -/

/-- How somebody moves on who was called, in an executor from which the call is taken. -/
inductive Moved (x : Executor τ ρ) : Stage → Ticket τ → Option (Ticket τ) → Executor τ ρ → Prop
  | starts {stage : Stage} {t : Ticket τ} (free : stage = .slotted ∨ x.slotsTaken < x.slots) :
      Moved x stage t (some t) x
  | waitsForSlot {stage : Stage} {t : Ticket τ} (without : stage ≠ .slotted)
      (full : x.slots ≤ x.slotsTaken) :
      Moved x stage t none { x with slotLine := x.slotLine ++ [t] }
  | waitsForGate {t : Ticket τ} (closed : x.gateOpen t = false) :
      Moved x .fresh t none { x with gateLine := x.gateLine ++ [t] }

theorem askSlot_moved {stage : Stage} (without : stage ≠ .slotted) (t : Ticket τ)
    (x : Executor τ ρ) : Moved x stage t (askSlot t x).1 (askSlot t x).2 := by
  unfold askSlot
  split
  · rename_i free
    exact .starts (.inr free)
  · rename_i full
    exact .waitsForSlot without (Nat.le_of_not_lt full)

theorem turn?_eq_some {started : Option (Ticket τ)} (h : x.turn? = some (started, x')) :
    ∃ stage t rest, x.called = ⟨t, stage⟩ :: rest ∧
      Moved { x with called := rest } stage t started x' := by
  unfold turn? at h
  split at h
  · cases h
  · rename_i t stage rest called
    refine ⟨stage, t, rest, called, ?_⟩
    cases stage with
    | slotted =>
        cases h
        exact .starts (.inl rfl)
    | gated =>
        have without : Stage.gated ≠ .slotted := by decide
        have moved := askSlot_moved without t { x with called := rest }
        rwa [Option.some.inj h] at moved
    | fresh =>
        dsimp only at h
        split at h
        · have without : Stage.fresh ≠ .slotted := by decide
          have moved := askSlot_moved without t { x with called := rest }
          rwa [Option.some.inj h] at moved
        · rename_i closed
          cases h
          exact .waitsForGate (by simpa using closed)

theorem turn?_eq_none : x.turn? = none ↔ x.called = [] := by
  constructor
  · intro nobody
    unfold turn? at nobody
    split at nobody
    · assumption
    · dsimp only at nobody
      split at nobody
      · cases nobody
      · cases nobody
      · split at nobody <;> cases nobody
  · intro nobody
    rw [turn?, nobody]

theorem Moved.queued_none {stage : Stage} (h : Moved x stage t none x') :
    x'.queued.Perm (t :: x.queued) := by
  cases h with
  | waitsForSlot _ _ =>
      simp only [queued, List.append_assoc, List.singleton_append]
      exact List.perm_middle
  | waitsForGate _ =>
      simp only [queued, List.append_assoc, List.singleton_append]
      rw [← List.append_assoc, ← List.append_assoc]
      exact List.perm_middle

theorem queued_of_called {stage : Stage} {rest : List (Called τ)}
    (h : x.called = ⟨t, stage⟩ :: rest) :
    x.queued.Perm (t :: { x with called := rest }.queued) := by
  simp only [queued, h, List.map_cons]
  exact List.perm_middle

/-! Ending. -/

theorem queued_passSlot (x : Executor τ ρ) : x.passSlot.queued.Perm x.queued := by
  unfold passSlot
  split
  · exact .refl _
  · rename_i t rest line
    rw [queued_call]
    simp only [queued, line, List.cons_append]
    exact List.perm_append_singleton t _

theorem queued_passGate (gate : Option Nat) (x : Executor τ ρ) :
    (x.passGate gate).queued.Perm x.queued := by
  unfold passGate
  split
  · exact .refl _
  · split
    · exact .refl _
    · rename_i g t found
      have line := perm_cons_eraseP found
      rw [queued_call]
      refine (List.perm_append_singleton t _).trans ?_
      simp only [queued]
      refine List.Perm.trans ?_ ((line.append_left x.slotLine).append_right _).symm
      simp only [List.append_assoc, List.cons_append]
      exact List.perm_middle.symm

/-- Whoever has ended is not running any more, and has not handed anything on yet. -/
def vacate (r : Running τ ρ) (x : Executor τ ρ) : Executor τ ρ :=
  { x with running := x.running.eraseP (·.ticket.number == r.ticket.number) }

theorem finish_eq (r : Running τ ρ) (x : Executor τ ρ) :
    x.finish r = (x.vacate r).passSlot.passGate r.ticket.gate := rfl

theorem queued_finish (r : Running τ ρ) (x : Executor τ ρ) :
    (x.finish r).queued.Perm x.queued :=
  (queued_passGate _ _).trans (queued_passSlot _)

/-! What stays as it is, whoever moves. -/

structure Frame (x x' : Executor τ ρ) : Prop where
  slots : x'.slots = x.slots
  issued : x'.issued = x.issued
  shut : x'.shut = x.shut

theorem Moved.frame {stage : Stage} {started : Option (Ticket τ)} (h : Moved x stage t started x') :
    Frame x x' ∧ x'.running = x.running := by
  cases h <;> exact ⟨⟨rfl, rfl, rfl⟩, rfl⟩

theorem passSlot_frame (x : Executor τ ρ) :
    Frame x x.passSlot ∧ x.passSlot.running = x.running := by
  unfold passSlot
  split <;> exact ⟨⟨rfl, rfl, rfl⟩, rfl⟩

theorem passGate_frame (gate : Option Nat) (x : Executor τ ρ) :
    Frame x (x.passGate gate) ∧ (x.passGate gate).running = x.running := by
  unfold passGate
  split
  · exact ⟨⟨rfl, rfl, rfl⟩, rfl⟩
  · split <;> exact ⟨⟨rfl, rfl, rfl⟩, rfl⟩

theorem finish_frame (r : Running τ ρ) (x : Executor τ ρ) : Frame x (x.finish r) := by
  have slot := (passSlot_frame (x.vacate r)).1
  have gate := (passGate_frame r.ticket.gate (x.vacate r).passSlot).1
  exact ⟨gate.slots.trans slot.slots, gate.issued.trans slot.issued, gate.shut.trans slot.shut⟩

theorem running_finish (r : Running τ ρ) (x : Executor τ ρ) :
    (x.finish r).running = (x.vacate r).running := by
  rw [finish_eq, (passGate_frame _ _).2, (passSlot_frame _).2]

/-! Numbers. -/

/-- No number is given twice. -/
structure Numbered (x : Executor τ ρ) : Prop where
  distinct : (x.tickets.map (·.number)).Nodup
  issued : ∀ t ∈ x.tickets, t.number < x.issued

theorem Numbered.fewer (h : x.Numbered) (frame : Frame x x') {gone : List (Ticket τ)}
    (tickets : x.tickets.Perm (x'.tickets ++ gone)) : x'.Numbered := by
  constructor
  · have distinct := ((tickets.map (·.number)).nodup_iff.mp h.distinct)
    rw [List.map_append] at distinct
    exact (List.nodup_append.mp distinct).1
  · intro t ht
    rw [frame.issued]
    exact h.issued t (tickets.symm.subset (List.mem_append_left _ ht))

theorem Numbered.submit {gate : Option Nat} {task : τ} {inRuntime : Bool} (h : x.Numbered)
    (accepted : x.submit gate task inRuntime = .ok x') : x'.Numbered := by
  have tickets := tickets_submit accepted
  obtain ⟨-, -, rfl⟩ := submit_eq_ok accepted
  constructor
  · rw [(tickets.map (·.number)).nodup_iff, List.map_cons, List.nodup_cons]
    refine ⟨?_, h.distinct⟩
    intro taken
    obtain ⟨t, ht, same⟩ := List.mem_map.mp taken
    exact Nat.ne_of_lt (h.issued t ht) same
  · intro t ht
    rcases List.mem_cons.mp (tickets.subset ht) with rfl | ht
    · exact Nat.lt_succ_self _
    · exact Nat.lt_succ_of_lt (h.issued t ht)

/-- Who ends is the one that leaves the running ones. -/
theorem Numbered.running_finish (h : x.Numbered) (hr : r ∈ x.running) :
    x.running.Perm (r :: (x.finish r).running) := by
  rw [Executor.running_finish]
  apply perm_cons_eraseP
  have distinct : (x.running.map fun r => r.ticket.number).Nodup := by
    have all := h.distinct
    rw [tickets, List.map_append, List.map_map] at all
    exact (List.nodup_append.mp all).2.1
  cases found : x.running.find? (·.ticket.number == r.ticket.number) with
  | none => simpa using List.find?_eq_none.mp found r hr
  | some r' =>
      have same : r'.ticket.number = r.ticket.number := by simpa using List.find?_some found
      rw [List.inj_on_of_nodup_map distinct (List.mem_of_find?_eq_some found) hr same]

end Executor
end ProjectDesk
