import Mathlib.Logic.Function.Iterate
import ProjectDesk.Proofs.Dispatch.Feed

/-!
The history is a window on the pushes: it shows the latest of them, as many as it has room for.
Room for another is made by giving up the oldest one by one, and that comes to an end also where
there is no room at all.
-/

namespace ProjectDesk.FailureLog

variable {φ : Type} {log : FailureLog φ} {all kept : List φ} {capacity : Nat} {failure : φ}

theorem latest_of_le (h : all.length ≤ capacity) : latest capacity all = all := by
  rw [latest, Nat.sub_eq_zero_of_le h, List.drop_zero]

theorem latest_cons (h : capacity ≤ all.length) (oldest : φ) :
    latest capacity (oldest :: all) = latest capacity all := by
  rw [latest, latest, List.length_cons, Nat.succ_sub h, List.drop_succ_cons]

/-- A failure on its way into the history. -/
inductive Pushing (φ : Type) where
  | makingRoom (history : List φ)
  | done (history : List φ)
  deriving DecidableEq, Repr

namespace Pushing

def history : Pushing φ → List φ
  | .makingRoom history | .done history => history

/-- Where nothing can be kept, nothing is tried. -/
def start (capacity : Nat) (history : List φ) : Pushing φ :=
  if capacity = 0 then .done history else .makingRoom history

def step (capacity : Nat) (failure : φ) : Pushing φ → Pushing φ
  | .makingRoom history =>
      if capacity ≤ history.length then .makingRoom history.tail else .done (history ++ [failure])
  | .done history => .done history

theorem step_of_full (full : capacity ≤ kept.length) :
    step capacity failure (.makingRoom kept) = .makingRoom kept.tail :=
  if_pos full

theorem step_of_room (room : kept.length < capacity) :
    step capacity failure (.makingRoom kept) = .done (kept ++ [failure]) :=
  if_neg (Nat.not_le.mpr room)

theorem length_step_le {p : Pushing φ} (h : p.history.length ≤ capacity) :
    (step capacity failure p).history.length ≤ capacity := by
  cases p with
  | done kept => exact h
  | makingRoom kept =>
      rcases Nat.lt_or_ge kept.length capacity with room | full
      · rw [step_of_room room, history, List.length_append]
        exact room
      · rw [step_of_full full, history, List.length_tail]
        exact Nat.le_trans (Nat.sub_le _ _) h

theorem length_iterate_le {p : Pushing φ} (h : p.history.length ≤ capacity) (n : Nat) :
    ((step capacity failure)^[n] p).history.length ≤ capacity := by
  induction n generalizing p with
  | zero => exact h
  | succ n ih => exact ih (length_step_le h)

theorem history_start (capacity : Nat) (kept : List φ) : (start capacity kept).history = kept := by
  unfold start
  split <;> rfl

/-- However much has to be given up, the last step is the one that keeps the failure. -/
theorem iterate_makingRoom (some : 0 < capacity) (kept : List φ) :
    (step capacity failure)^[kept.length + 1 - capacity + 1] (.makingRoom kept) =
      .done (latest capacity (kept ++ [failure])) := by
  have last {kept : List φ} (room : kept.length < capacity) :
      (step capacity failure)^[kept.length + 1 - capacity + 1] (.makingRoom kept) =
        .done (latest capacity (kept ++ [failure])) := by
    have fits : (kept ++ [failure]).length ≤ capacity := by
      rw [List.length_append]
      exact room
    rw [Nat.sub_eq_zero_of_le room, latest_of_le fits]
    exact step_of_room room
  induction kept with
  | nil => exact last some
  | cons oldest kept ih =>
      rcases Nat.lt_or_ge (oldest :: kept).length capacity with room | full
      · exact last room
      · rw [List.length_cons] at full
        -- Without the oldest there are still enough of the latest.
        have enough : capacity ≤ (kept ++ [failure]).length := by
          rw [List.length_append]
          exact full
        rw [List.cons_append, latest_cons enough, List.length_cons, Nat.succ_sub full,
          Function.iterate_succ_apply, step_of_full full]
        exact ih

/-- A push comes to an end, and to what it was to come to. -/
theorem iterate_start (h : log.history.length ≤ log.capacity) (failure : φ) :
    ∃ n ≤ 2, (step log.capacity failure)^[n] (start log.capacity log.history) =
      .done (log.push failure).history := by
  unfold start
  split
  · rename_i none
    rw [none, Nat.le_zero, List.length_eq_zero_iff] at h
    refine ⟨0, Nat.zero_le _, congrArg done ?_⟩
    rw [FailureLog.push, h, none]
    rfl
  · rename_i some
    exact ⟨_, by omega, iterate_makingRoom (Nat.pos_of_ne_zero some) log.history⟩

end Pushing

/-! The window. -/

/-- All this has been pushed, and the latest of it is shown. -/
structure Shows (log : FailureLog φ) (capacity : Nat) (all : List φ) : Prop where
  room : log.capacity = capacity
  window : log.history = latest capacity all

theorem shows_new (capacity : Nat) : ({ capacity } : FailureLog φ).Shows capacity [] :=
  ⟨rfl, List.drop_nil.symm⟩

theorem Shows.push (h : log.Shows capacity all) (failure : φ) :
    (log.push failure).Shows capacity (all ++ [failure]) := by
  refine ⟨h.room, ?_⟩
  rw [FailureLog.push]
  dsimp only
  rw [h.room, h.window, latest_latest_append]

theorem Shows.receive (h : log.Shows capacity all) (asker : Nat) :
    (log.receive asker).2.Shows capacity all := by
  rcases receive_moves asker log with same | ⟨position, moved⟩
  · rwa [same]
  · rw [moved]
    exact ⟨h.room, h.window⟩

theorem Shows.act (h : log.Shows capacity all) (a : Act φ) :
    (log.act a).Shows capacity (all ++ a.pushed?.toList) := by
  cases a with
  | push failure => exact h.push failure
  | subscribe | unsubscribe _ => exact (List.append_nil all).symm ▸ ⟨h.room, h.window⟩
  | receive asker => exact (List.append_nil all).symm ▸ h.receive asker

theorem Shows.play (h : log.Shows capacity all) (acts : List (Act φ)) :
    (log.play acts).Shows capacity (all ++ pushes acts) := by
  induction acts generalizing log all with
  | nil =>
      rw [pushes, List.filterMap_nil, List.append_nil]
      exact h
  | cons a acts ih =>
      have later := ih (h.act a)
      rwa [List.append_assoc, pushes, ← filterMap_cons_toList] at later

theorem Shows.length (h : log.Shows capacity all) :
    log.history.length = min all.length capacity := by
  rw [h.window, length_latest, Nat.min_comm]

theorem history_window (capacity : Nat) (acts : List (Act φ)) :
    let log := play acts { capacity }
    log.history <:+ pushes acts ∧
    log.history.length = min (pushes acts).length capacity ∧
    log.size = min (pushes acts).length capacity ∧
    (log.isEmpty = true ↔ pushes acts = [] ∨ capacity = 0) ∧
    ∀ failure,
      (∀ n, ((Pushing.step capacity failure)^[n]
        (Pushing.start capacity log.history)).history.length ≤ capacity) ∧
      ∃ n ≤ 2, (Pushing.step capacity failure)^[n] (Pushing.start capacity log.history) =
        .done (log.push failure).history := by
  intro log
  have shows : log.Shows capacity (pushes acts) := (shows_new capacity).play acts
  have short : log.history.length ≤ capacity := by
    rw [shows.length]
    exact Nat.min_le_right _ _
  refine ⟨?_, shows.length, shows.length, ?_, fun failure => ⟨fun n => ?_, ?_⟩⟩
  · rw [shows.window]
    exact List.drop_suffix _ _
  · rw [isEmpty, List.isEmpty_iff, ← List.length_eq_zero_iff, shows.length,
      ← List.length_eq_zero_iff (l := pushes acts)]
    omega
  · refine Pushing.length_iterate_le ?_ n
    rwa [Pushing.history_start]
  · rw [← shows.room] at short ⊢
    exact Pushing.iterate_start short failure

end ProjectDesk.FailureLog
