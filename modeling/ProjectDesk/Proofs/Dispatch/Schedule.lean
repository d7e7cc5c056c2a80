import Mathlib.Logic.Relation
import ProjectDesk.Dispatch.Engine
import ProjectDesk.Proofs.Dispatch.Tickets

/-!
The orders in which the tasks of an engine may go on. Anybody who is called may be the next to move
on, anybody who is due may be the next to end, those who wait for a slot or a gate may be given it
in any order, and any of this may take time. The engine itself takes one of these courses.
-/

namespace ProjectDesk

/-- An end, as the history tells of it. -/
structure Closing (τ ρ : Type) where
  ticket : Ticket τ
  time : Nat
  result : ρ

namespace Milestone

variable {τ ρ : Type}

def begun? : Milestone τ ρ → Option (Ticket τ)
  | .started t _ => some t
  | .ended _ _ _ => none

def closing? : Milestone τ ρ → Option (Closing τ ρ)
  | .started _ _ => none
  | .ended t time result => some ⟨t, time, result⟩

end Milestone

namespace Engine

variable {τ ρ σ : Type} {work : Work τ ρ σ} {e e' : Engine τ ρ σ}

inductive Move (work : Work τ ρ σ) (e : Engine τ ρ σ) : Engine τ ρ σ → Prop
  | reordered {called : List (Called τ)} {gateLine slotLine : List (Ticket τ)}
      {running : List (Running τ ρ)} (called' : called.Perm e.executor.called)
      (gateLine' : gateLine.Perm e.executor.gateLine)
      (slotLine' : slotLine.Perm e.executor.slotLine)
      (running' : running.Perm e.executor.running) :
      Move work e { e with executor := { e.executor with called, gateLine, slotLine, running } }
  | waits {x : Executor τ ρ} (opened : e.executor.shut = false)
      (turn : e.executor.turn? = some (none, x)) : Move work e { e with executor := x }
  | starts {x : Executor τ ρ} {t : Ticket τ} (opened : e.executor.shut = false)
      (turn : e.executor.turn? = some (some t, x)) :
      Move work e ({ e with executor := x }.start work t)
  | ends {r : Running τ ρ} (running : r ∈ e.executor.running) (due : r.due ≤ e.clock) :
      Move work e (e.finish work r)
  /-- Once the executor is shut, some of those who have not started leave. -/
  | leave {called : List (Called τ)} {gateLine slotLine : List (Ticket τ)}
      (shut : e.executor.shut = true) (called' : called.Sublist e.executor.called)
      (gateLine' : gateLine.Sublist e.executor.gateLine)
      (slotLine' : slotLine.Sublist e.executor.slotLine) :
      Move work e { e with executor := { e.executor with called, gateLine, slotLine } }
  | waited {time : Nat} (later : e.clock ≤ time) : Move work e { e with clock := time }

def Moves (work : Work τ ρ σ) : Engine τ ρ σ → Engine τ ρ σ → Prop :=
  Relation.ReflTransGen (Move work)

/-- Everybody who has started, in this order. -/
def begun (e : Engine τ ρ σ) : List (Ticket τ) :=
  e.history.filterMap Milestone.begun?

def closings (e : Engine τ ρ σ) : List (Closing τ ρ) :=
  e.history.filterMap Milestone.closing?

/-- What a move comes to for the tickets, the world and the history. -/
inductive Effect (work : Work τ ρ σ) (e e' : Engine τ ρ σ) : Prop
  | none (queued : e'.executor.queued.Perm e.executor.queued)
      (running : e'.executor.running.Perm e.executor.running) (history : e'.history = e.history)
      (world : e'.world = e.world)
  | left (gone : List (Ticket τ)) (shut : e.executor.shut = true)
      (queued : e.executor.queued.Perm (e'.executor.queued ++ gone))
      (running : e'.executor.running = e.executor.running) (history : e'.history = e.history)
      (world : e'.world = e.world)
  | started (t : Ticket τ) (opened : e.executor.shut = false)
      (queued : e.executor.queued.Perm (t :: e'.executor.queued))
      (running : e'.executor.running = e.executor.running ++
        [⟨t, e.clock + (work.start e.clock t e.world).1.1, (work.start e.clock t e.world).1.2⟩])
      (history : e'.history = e.history ++ [.started t e.clock])
      (world : e'.world = (work.start e.clock t e.world).2)
  | ended (r : Running τ ρ) (queued : e'.executor.queued.Perm e.executor.queued)
      (running : e.executor.running.Perm (r :: e'.executor.running))
      (history : e'.history = e.history ++ [.ended r.ticket e.clock r.result])
      (world : e'.world = work.finish e.clock r.ticket r.result e.world)

theorem Move.effect (numbered : e.executor.Numbered) (h : Move work e e') : Effect work e e' := by
  cases h with
  | reordered called' gateLine' slotLine' running' =>
      refine .none ?_ running' rfl rfl
      exact (slotLine'.append gateLine').append (called'.map _)
  | waits opened turn =>
      obtain ⟨stage, t, rest, called, moved⟩ := Executor.turn?_eq_some turn
      refine .none ?_ (by rw [moved.frame.2]) rfl rfl
      exact moved.queued_none.trans (Executor.queued_of_called called).symm
  | starts opened turn =>
      obtain ⟨stage, t, rest, called, moved⟩ := Executor.turn?_eq_some turn
      cases moved
      exact .started _ opened (Executor.queued_of_called called) rfl rfl rfl
  | ends running due =>
      exact .ended _ (Executor.queued_finish _ _) (numbered.running_finish running) rfl rfl
  | leave shut called' gateLine' slotLine' =>
      have queued := (slotLine'.append gateLine').append (called'.map (·.ticket))
      obtain ⟨gone, perm⟩ := queued.exists_perm_append
      exact .left gone shut perm rfl rfl rfl
  | waited later => exact .none (.refl _) (.refl _) rfl rfl

theorem Move.frame (h : Move work e e') : Executor.Frame e.executor e'.executor := by
  cases h with
  | reordered _ _ _ _ | leave _ _ _ _ | waited _ => exact ⟨rfl, rfl, rfl⟩
  | waits _ turn | starts _ turn =>
      obtain ⟨stage, t, rest, called, moved⟩ := Executor.turn?_eq_some turn
      exact ⟨moved.frame.1.slots, moved.frame.1.issued, moved.frame.1.shut⟩
  | ends _ _ => exact Executor.finish_frame _ _

/-- Those who were under way still are, have ended, or have left. -/
theorem Effect.parted (h : Effect work e e') :
    ∃ ended gone, e'.closings = e.closings ++ ended ∧
      e.executor.tickets.Perm (e'.executor.tickets ++ (ended.map (·.ticket) ++ gone)) ∧
      (e.executor.shut = false → gone = []) := by
  unfold closings
  cases h with
  | none queued running history _ =>
      refine ⟨[], [], by rw [history, List.append_nil], ?_, fun _ => rfl⟩
      change List.Perm _ (_ ++ [])
      rw [List.append_nil]
      exact (queued.append (running.map _)).symm
  | left gone shut queued running history _ =>
      refine ⟨[], gone, by rw [history, List.append_nil], (queued.append_right _).trans ?_, ?_⟩
      · rw [Executor.tickets, running, List.append_assoc, List.append_assoc]
        exact List.perm_append_comm.append_left _
      · intro opened
        rw [shut] at opened
        cases opened
  | started t _ queued running history _ =>
      refine ⟨[], [], ?_, (queued.append_right _).trans ?_, fun _ => rfl⟩
      · rw [history, List.filterMap_append]
        rfl
      · rw [Executor.tickets, running, List.map_append]
        change List.Perm _ (_ ++ (_ ++ [t]) ++ [])
        rw [List.append_nil, ← List.append_assoc]
        exact (List.perm_append_singleton t _).symm
  | ended r queued running history _ =>
      refine ⟨[⟨r.ticket, e.clock, r.result⟩], [], ?_,
        (queued.symm.append (running.map _)).trans ?_, fun _ => rfl⟩
      · rw [history, List.filterMap_append]
        rfl
      · rw [Executor.tickets, List.map_cons]
        exact List.perm_middle.trans (List.perm_append_singleton _ _).symm

theorem Move.numbered (numbered : e.executor.Numbered) (h : Move work e e') :
    e'.executor.Numbered := by
  obtain ⟨ended, gone, -, tickets, -⟩ := (h.effect numbered).parted
  exact numbered.fewer h.frame tickets

/-! Who has started is running or has ended. -/

def Booked (e : Engine τ ρ σ) : Prop :=
  e.begun.Perm (e.executor.running.map (·.ticket) ++ e.closings.map (·.ticket))

theorem Effect.history_prefix (h : Effect work e e') : e.history <+: e'.history := by
  cases h with
  | none _ _ history _ | left _ _ _ _ history _ =>
      refine ⟨[], ?_⟩
      rw [history, List.append_nil]
  | started _ _ _ _ history _ | ended _ _ _ history _ =>
      rw [history]
      exact List.prefix_append _ _

/-- Once the executor is shut, nobody starts. -/
theorem Effect.begun_of_shut (h : Effect work e e') (shut : e.executor.shut = true) :
    e'.begun = e.begun := by
  unfold begun
  cases h with
  | none _ _ history _ | left _ _ _ _ history _ => rw [history]
  | started _ opened _ _ _ _ =>
      rw [shut] at opened
      cases opened
  | ended r _ _ history _ =>
      rw [history, List.filterMap_append]
      exact List.append_nil _

theorem Booked.withExecutor {x : Executor τ ρ} (booked : e.Booked)
    (running : x.running.map (·.ticket) = e.executor.running.map (·.ticket)) :
    Booked { e with executor := x } := by
  unfold Booked at *
  rw [running]
  exact booked

theorem Effect.booked (booked : e.Booked) (h : Effect work e e') : e'.Booked := by
  unfold Booked begun closings at *
  cases h with
  | none _ running history _ =>
      rw [history]
      exact booked.trans ((running.symm.map _).append_right _)
  | left _ _ _ running history _ =>
      rw [history, running]
      exact booked
  | started t _ _ running history _ =>
      rw [history, running, List.filterMap_append, List.filterMap_append, List.map_append,
        List.append_assoc]
      change (_ ++ [t]).Perm (_ ++ ([t] ++ List.map _ (_ ++ [])))
      rw [List.append_nil]
      refine (booked.append_right [t]).trans ?_
      rw [List.append_assoc]
      exact List.perm_append_comm.append_left _
  | ended r _ running history _ =>
      rw [history, List.filterMap_append, List.filterMap_append, List.map_append]
      change (_ ++ []).Perm (_ ++ (_ ++ [r.ticket]))
      rw [List.append_nil, ← List.append_assoc]
      refine booked.trans (((running.map _).append_right _).trans ?_)
      exact (List.perm_append_singleton _ _).symm

/-! The engine's own course. -/

/-- What the engine itself does next, at the present moment. -/
inductive Stepped (work : Work τ ρ σ) (e : Engine τ ρ σ) : Engine τ ρ σ → Prop
  | withdrew (shut : e.executor.shut = true) (waiting : e.executor.queued ≠ []) :
      Stepped work e { e with executor := e.executor.withdraw }
  | ended {r : Running τ ρ} (running : r ∈ e.executor.running) (due : r.due ≤ e.clock) :
      Stepped work e (e.finish work r)
  | waited {x : Executor τ ρ} (opened : e.executor.shut = false)
      (turn : e.executor.turn? = some (none, x)) : Stepped work e { e with executor := x }
  | started {x : Executor τ ρ} {t : Ticket τ} (opened : e.executor.shut = false)
      (turn : e.executor.turn? = some (some t, x)) :
      Stepped work e ({ e with executor := x }.start work t)

theorem step?_eq_some (h : e.step? work = some e') : Stepped work e e' := by
  unfold step? at h
  split at h
  · rename_i leaving
    rw [Bool.and_eq_true] at leaving
    cases h
    exact .withdrew leaving.1 (by simpa using leaving.2)
  · rename_i staying
    split at h
    · rename_i r due
      cases h
      exact .ended (List.mem_of_find?_eq_some due) (by simpa using List.find?_some due)
    · -- Whoever is called has not started, so that it would have left.
      have opened (turn : e.executor.called ≠ []) : e.executor.shut = false := by
        cases shut : e.executor.shut with
        | false => rfl
        | true => simp [shut, Executor.queued, turn] at staying
      split at h
      · cases h
      · rename_i x turn
        cases h
        obtain ⟨stage, t, rest, called, -⟩ := Executor.turn?_eq_some turn
        exact .waited (opened (by simp [called])) turn
      · rename_i t x turn
        cases h
        obtain ⟨stage, t, rest, called, -⟩ := Executor.turn?_eq_some turn
        exact .started (opened (by simp [called])) turn

theorem Stepped.move (h : Stepped work e e') : Move work e e' := by
  cases h with
  | withdrew shut _ =>
      exact .leave shut (List.nil_sublist _) (List.nil_sublist _) (List.nil_sublist _)
  | ended running due => exact .ends running due
  | waited opened turn => exact .waits opened turn
  | started opened turn => exact .starts opened turn

/-- What the engine itself does: what is next at a moment, and going on to a later one. -/
inductive Goes (work : Work τ ρ σ) (e : Engine τ ρ σ) : Engine τ ρ σ → Prop
  | stepped {e' : Engine τ ρ σ} (h : Stepped work e e') : Goes work e e'
  | waited {time : Nat} (later : e.clock ≤ time) : Goes work e { e with clock := time }

theorem Goes.move (h : Goes work e e') : Move work e e' := by
  cases h with
  | stepped h => exact h.move
  | waited later => exact .waited later

theorem goes_steps (fuel : Nat) (e : Engine τ ρ σ) :
    Relation.ReflTransGen (Goes work) e (e.steps work fuel) := by
  induction fuel generalizing e with
  | zero => exact .refl
  | succ fuel ih =>
      unfold steps
      split
      · exact .refl
      · rename_i next step
        exact (ih next).head (.stepped (step?_eq_some step))

theorem moves_steps (fuel : Nat) (e : Engine τ ρ σ) : Moves work e (e.steps work fuel) :=
  Relation.ReflTransGen.mono (fun _ _ => Goes.move) _ _ (goes_steps fuel e)

end Engine
end ProjectDesk
