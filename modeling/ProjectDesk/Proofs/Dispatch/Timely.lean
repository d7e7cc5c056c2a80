import ProjectDesk.Proofs.Dispatch.Conduct
import ProjectDesk.Proofs.Dispatch.Handover
import ProjectDesk.Proofs.Dispatch.Unbroken

/-!
Courses on time: deliveries go on in any order, and time stands still as long as anybody is called
and does not pass over an end. Whatever a dispatcher is used for is a course on time, and one can go
on from any state. Before shutdown, somebody who was handed a slot starts at the moment of it.
-/

namespace ProjectDesk

/-- What stays as it is when somebody comes or is refused. -/
structure Engine.Joined {τ ρ σ : Type} (e e' : Engine τ ρ σ) : Prop where
  clock : e'.clock = e.clock
  history : e'.history = e.history
  running : e'.executor.running = e.executor.running
  slotLine : e'.executor.slotLine = e.executor.slotLine
  called : e.executor.called ⊆ e'.executor.called

theorem Engine.Joined.ready {τ ρ σ : Type} {e e' : Engine τ ρ σ} (h : e.Joined e') :
    e.executor.ready ⊆ e'.executor.ready := by
  unfold Executor.ready Executor.handed
  rw [h.slotLine]
  exact List.append_subset.mpr ⟨List.subset_append_left _ _,
    List.subset_append_of_subset_right _ (List.map_subset _ (List.filter_subset _ h.called))⟩

namespace Course

variable {σ : Type} {c c' : Course σ}

structure OnTime (c c' : Course σ) : Prop where
  conduct : Conduct (AnyOrder σ) c c'
  punctual : c.dispatcher.engine.Punctual c'.dispatcher.engine

def RunsOnTime : Course σ → Course σ → Prop :=
  Relation.ReflTransGen OnTime

theorem RunsOnTime.conducts (h : RunsOnTime c c') : Conducts (AnyOrder σ) c c' :=
  Relation.ReflTransGen.mono (fun _ _ step => step.conduct) _ _ h

theorem RunsOnTime.runs (h : RunsOnTime c c') : c.Runs c' :=
  Relation.ReflTransGen.mono (fun _ _ step => step.conduct.step) _ _ h

theorem RunsOnTime.upToDate (h : RunsOnTime c c') (current : c.dispatcher.engine.UpToDate) :
    c'.dispatcher.engine.UpToDate := by
  cases h with
  | refl => exact current
  | tail _ last => exact last.punctual.upToDate

theorem joined_attempt (occasion : Occasion) (inRuntime : Bool) (registered : RegisteredHandler σ)
    (c : Course σ) : c.dispatcher.engine.Joined
      (c.attempt occasion inRuntime registered).dispatcher.engine := by
  have attempted := c.attempted occasion inRuntime registered
  generalize c.attempt occasion inRuntime registered = c' at attempted
  cases attempted with
  | scheduled _ accepted =>
      obtain ⟨-, -, rfl⟩ := Executor.submit_eq_ok accepted
      exact ⟨rfl, rfl, rfl, rfl, List.subset_append_left _ _⟩
  | refused _ _ => exact ⟨rfl, rfl, rfl, rfl, List.Subset.refl _⟩

/-! Before shutdown. -/

/-- Without shutdown, somebody joins or something moves. -/
theorem OnTime.joined_or_moved (h : OnTime c c') (never : c'.shutdowns = 0) :
    c.shutdowns = 0 ∧ (c.dispatcher.engine.Joined c'.dispatcher.engine ∨
      c.dispatcher.engine.Move (Delivery.work c.dispatcher.timeout) c'.dispatcher.engine) := by
  cases h.conduct with
  | attempted _ => exact ⟨never, .inl (joined_attempt _ _ _ c)⟩
  | moved move _ => exact ⟨never, .inr move⟩
  | cutOff => exact absurd never (Nat.succ_ne_zero _)

theorem RunsOnTime.never (h : RunsOnTime c c') (never : c'.shutdowns = 0) : c.shutdowns = 0 := by
  induction h with
  | refl => exact never
  | tail _ step ih => exact ih (step.joined_or_moved never).1

theorem OnTime.clock_le (h : OnTime c c') (never : c'.shutdowns = 0) :
    c.dispatcher.clock ≤ c'.dispatcher.clock := by
  rcases (h.joined_or_moved never).2 with joined | move
  · exact Nat.le_of_eq joined.clock.symm
  · exact move.clock_le

theorem RunsOnTime.clock_le (h : RunsOnTime c c') (never : c'.shutdowns = 0) :
    c.dispatcher.clock ≤ c'.dispatcher.clock := by
  induction h with
  | refl => exact Nat.le_refl _
  | tail _ step ih =>
      exact Nat.le_trans (ih (step.joined_or_moved never).1) (step.clock_le never)

end Course
end ProjectDesk
