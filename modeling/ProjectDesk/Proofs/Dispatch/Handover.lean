import ProjectDesk.Proofs.Dispatch.Punctual
import ProjectDesk.Proofs.Dispatch.Standing

/-!
What becomes of a slot and a gate when somebody ends: each is free from then on, or is in the hands
of the first who waited for it. Whoever was handed a slot starts with the next turn, and whoever was
handed a gate keeps it and starts, unless all slots are taken.
-/

namespace ProjectDesk

namespace Executor

variable {τ ρ : Type} {x x' : Executor τ ρ} {t : Ticket τ} {r : Running τ ρ} {g : Nat}
  {begun : List (Ticket τ)}

/-! What who ends gives back. -/

theorem called_passSlot (x : Executor τ ρ) : x.called ⊆ x.passSlot.called := by
  unfold passSlot
  split
  · exact List.Subset.refl _
  · exact List.subset_append_left _ _

theorem called_passGate (gate : Option Nat) (x : Executor τ ρ) :
    x.called ⊆ (x.passGate gate).called := by
  unfold passGate
  split
  · exact List.Subset.refl _
  · split
    · exact List.Subset.refl _
    · exact List.subset_append_left _ _

theorem called_finish (r : Running τ ρ) (x : Executor τ ρ) : x.called ⊆ (x.finish r).called :=
  List.Subset.trans (called_passSlot (x.vacate r)) (called_passGate _ _)

theorem ready_finish (r : Running τ ρ) (x : Executor τ ρ) : x.ready ⊆ (x.finish r).ready := by
  refine List.Subset.trans (standing_passSlot (x.vacate r)).1.symm.subset ?_
  rw [finish_eq]
  unfold passGate
  split
  · exact List.Subset.refl _
  · split
    · exact List.Subset.refl _
    · rw [(call_handed (by decide)).1]
      exact List.subset_append_left _ _

theorem Moved.ready {stage : Stage} {started : Option (Ticket τ)}
    (h : Moved x stage t started x') : x.ready ⊆ x'.ready := by
  cases h with
  | starts _ | waitsForGate _ => exact List.Subset.refl _
  | waitsForSlot _ _ => exact ((List.sublist_append_left _ _).append_right _).subset

theorem ready_turn? {started : Option (Ticket τ)} (turn : x.turn? = some (started, x'))
    (ht : t ∈ x.ready) : t ∈ x'.ready ∨ started = some t := by
  obtain ⟨stage, first, rest, called, moved⟩ := turn?_eq_some turn
  have stands := standing_of_called called
  split at stands
  · rw [stands.1] at ht
    exact .inl (moved.ready ht)
  · rename_i something
    rcases List.mem_cons.mp (stands.1.subset ht) with rfl | others
    · cases moved with
      | starts _ => exact .inr rfl
      | waitsForSlot _ _ =>
          exact .inl (List.mem_append_left _ (List.mem_append_right _ (.head _)))
      | waitsForGate _ => exact absurd rfl something
    · exact .inl (moved.ready others)

theorem slotted_turn? {started : Option (Ticket τ)} (turn : x.turn? = some (started, x'))
    (ht : ⟨t, .slotted⟩ ∈ x.called) : ⟨t, .slotted⟩ ∈ x'.called ∨ started = some t := by
  obtain ⟨stage, first, rest, called, moved⟩ := turn?_eq_some turn
  rw [called] at ht
  rcases List.mem_cons.mp ht with own | others
  · cases own
    cases moved with
    | starts _ => exact .inr rfl
    | waitsForSlot without _ => exact absurd rfl without
  · cases moved <;> exact .inl others

end Executor

namespace Engine

variable {τ ρ σ : Type} {work : Work τ ρ σ} {e e' : Engine τ ρ σ} {t : Ticket τ}

theorem Move.ready (opened : e.executor.shut = false) (h : Move work e e')
    (ht : t ∈ e.executor.ready) :
    t ∈ e'.executor.ready ∨ e'.history = e.history ++ [.started t e.clock] := by
  cases h with
  | reordered called' _ slotLine' _ =>
      exact .inl ((slotLine'.append ((called'.filter _).map _)).symm.subset ht)
  | waits _ turn =>
      rcases Executor.ready_turn? turn ht with stays | starts
      · exact .inl stays
      · cases starts
  | starts _ turn =>
      rcases Executor.ready_turn? turn ht with stays | starts
      · exact .inl stays
      · cases starts
        exact .inr rfl
  | ends _ _ => exact .inl (Executor.ready_finish _ _ ht)
  | leave shut _ _ _ =>
      rw [opened] at shut
      cases shut
  | waited _ => exact .inl ht

theorem Move.slotted (opened : e.executor.shut = false) (h : Move work e e')
    (ht : ⟨t, .slotted⟩ ∈ e.executor.called) :
    ⟨t, .slotted⟩ ∈ e'.executor.called ∨ e'.history = e.history ++ [.started t e.clock] := by
  cases h with
  | reordered called' _ _ _ => exact .inl (called'.symm.subset ht)
  | waits _ turn =>
      rcases Executor.slotted_turn? turn ht with stays | starts
      · exact .inl stays
      · cases starts
  | starts _ turn =>
      rcases Executor.slotted_turn? turn ht with stays | starts
      · exact .inl stays
      · cases starts
        exact .inr rfl
  | ends _ _ => exact .inl (Executor.called_finish _ _ ht)
  | leave shut _ _ _ =>
      rw [opened] at shut
      cases shut
  | waited _ => exact .inl ht

end Engine
end ProjectDesk
