import ProjectDesk.Proofs.Dispatch.Books

/-!
What the balanced books come to for a single delivery: how often its handler was invoked, and which
failures were recorded of it.
-/

namespace ProjectDesk

theorem filter_key_eq_singleton {α : Type} {key : α → Nat} {xs : List α} {a : α}
    (distinct : (xs.map key).Nodup) (ha : a ∈ xs) : xs.filter (key · == key a) = [a] := by
  induction xs with
  | nil => cases ha
  | cons x rest ih =>
      rw [List.map_cons, List.nodup_cons] at distinct
      rcases List.mem_cons.mp ha with rfl | ha
      · have others : rest.filter (key · == key a) = [] := by
          rw [List.filter_eq_nil_iff]
          intro b hb same
          rw [beq_iff_eq] at same
          exact distinct.1 (List.mem_map.mpr ⟨b, hb, same⟩)
        rw [List.filter_cons_of_pos (by simp), others]
      · have other : ¬(key x == key a) = true := by
          intro same
          rw [beq_iff_eq] at same
          exact distinct.1 (List.mem_map.mpr ⟨a, ha, same.symm⟩)
        rw [List.filter_cons, if_neg other]
        exact ih distinct.2 ha

/-- Of all that were opened, those that were not closed are the rest. -/
theorem filter_open_perm {α β : Type} (key : α → Nat) (opening : β → α) {all rest : List α}
    {closed : List β} (perm : all.Perm (rest ++ closed.map opening))
    (distinct : (all.map key).Nodup) :
    (all.filter fun a => !closed.any fun b => key (opening b) == key a).Perm rest := by
  have keys := (perm.map key).nodup_iff.mp distinct
  rw [List.map_append] at keys
  have apart := (List.nodup_append.mp keys).2.2
  have goesOn : rest.filter (fun a => !closed.any fun b => key (opening b) == key a) = rest := by
    refine List.filter_eq_self.mpr fun a ha => ?_
    rw [Bool.not_eq_true', List.any_eq_false]
    intro b hb same
    rw [beq_iff_eq] at same
    have closed := List.mem_map_of_mem (f := key) (List.mem_map_of_mem (f := opening) hb)
    exact apart _ (List.mem_map_of_mem ha) _ closed same.symm
  have closedOff : (closed.map opening).filter
      (fun a => !closed.any fun b => key (opening b) == key a) = [] := by
    refine List.filter_eq_nil_iff.mpr fun a ha => ?_
    obtain ⟨b, hb, rfl⟩ := List.mem_map.mp ha
    have ended : (closed.any fun b' => key (opening b') == key (opening b)) = true :=
      List.any_eq_true.mpr ⟨b, hb, beq_self_eq_true _⟩
    simp [ended]
  have split := perm.filter fun a => !closed.any fun b => key (opening b) == key a
  rwa [List.filter_append, goesOn, closedOff, List.append_nil] at split

namespace Course

variable {σ : Type} {c c' : Course σ} {d : Delivery σ} {id : Nat}

/-- How often the handler was invoked for a delivery. -/
def invocations (id : Nat) (c : Course σ) : Nat :=
  (c.dispatcher.engine.begun.map (·.task.id)).count id

/-- What was recorded of a delivery, in this order. -/
def recordsOf (id : Nat) (c : Course σ) : List FailureRecord :=
  c.pushed.filter (·.delivery == id)

def refused (c : Course σ) : List (Attempt σ) :=
  c.attempts.filter (·.refusal?.isSome)

/-! Every delivery is in one place. -/

theorem Balanced.places (h : c.Balanced) :
    ∃ gone, c.scheduled.Perm (c.dispatcher.engine.executor.queued.map (·.task) ++
      (c.dispatcher.engine.begun.map (·.task) ++ gone)) ∧
        (c.dispatcher.engine.executor.shut = false → gone = []) := by
  obtain ⟨gone, scheduled, none⟩ := h.scheduled
  refine ⟨gone, scheduled.trans ?_, none⟩
  have booked := h.booked.map (·.task)
  rw [Executor.tickets, List.map_append, List.append_assoc]
  refine List.Perm.append_left _ ?_
  rw [← List.append_assoc]
  refine List.Perm.append_right _ ?_
  rw [List.map_append, List.map_map (l := c.dispatcher.engine.closings)] at booked
  exact booked.symm

theorem Balanced.distinct (h : c.Balanced) :
    (c.refused.map (·.delivery.id) ++ c.scheduled.map (·.id)).Nodup := by
  have all : (c.attempts.map (·.delivery.id)).Nodup := by
    rw [h.numbered]
    exact List.nodup_range
  have split : (c.attempts.filter (·.refusal?.isSome) ++
      c.attempts.filter fun a => !a.refusal?.isSome).Perm c.attempts :=
    List.filter_append_perm _ _
  have ids := split.map (·.delivery.id)
  rw [List.map_append] at ids
  rw [Course.scheduled, List.map_map]
  simpa [refused, Function.comp_def] using ids.nodup_iff.mpr all

theorem Balanced.scheduled_perm (h : c.Balanced) :
    ∃ gone, (c.scheduled.map (·.id)).Perm
      (c.dispatcher.engine.executor.queued.map (·.task.id) ++
        (c.dispatcher.engine.begun.map (·.task.id) ++ gone)) := by
  obtain ⟨gone, scheduled, -⟩ := h.places
  refine ⟨gone.map (·.id), ?_⟩
  have ids := scheduled.map (·.id)
  simp only [List.map_append, List.map_map] at ids
  exact ids

/-- Handlers are invoked once at most. -/
theorem Balanced.begun_nodup (h : c.Balanced) :
    (c.dispatcher.engine.begun.map (·.task.id)).Nodup := by
  obtain ⟨gone, ids⟩ := h.scheduled_perm
  have all := ids.nodup_iff.mp (List.nodup_append.mp h.distinct).2.1
  exact (List.nodup_append.mp (List.nodup_append.mp all).2.1).1

theorem mem_begun_of_mem_closings (h : c.Balanced) {x : Closing (Delivery σ) Ending}
    (hx : x ∈ c.dispatcher.engine.closings) : x.ticket ∈ c.dispatcher.engine.begun :=
  h.booked.symm.subset (List.mem_append_right _ (List.mem_map_of_mem hx))

theorem Balanced.invocations_eq_one (h : c.Balanced) {t : Ticket (Delivery σ)}
    (ht : t ∈ c.dispatcher.engine.begun) : c.invocations t.task.id = 1 :=
  List.count_eq_one_of_mem h.begun_nodup (List.mem_map.mpr ⟨t, ht, rfl⟩)

theorem Balanced.mem_scheduled_of_mem_begun (h : c.Balanced) {t : Ticket (Delivery σ)}
    (ht : t ∈ c.dispatcher.engine.begun) : t.task ∈ c.scheduled := by
  obtain ⟨gone, scheduled, -⟩ := h.places
  refine scheduled.symm.subset (List.mem_append_right _ (List.mem_append_left _ ?_))
  exact List.mem_map_of_mem ht

/-! Every record is of one end or one refusal. -/

theorem closings_distinct (h : c.Balanced) :
    (c.refused.map (·.delivery.id) ++
      c.dispatcher.engine.closings.map (·.ticket.task.id)).Nodup := by
  obtain ⟨refused, scheduled, apart⟩ := List.nodup_append.mp h.distinct
  refine List.nodup_append.mpr ⟨refused, ?_, ?_⟩
  · have ids := h.booked.map (·.task.id)
    have begun := ids.nodup_iff.mp h.begun_nodup
    rw [List.map_append, List.map_map (l := c.dispatcher.engine.closings)] at begun
    exact (List.nodup_append.mp begun).2.1
  · intro a ha b hb
    obtain ⟨x, hx, rfl⟩ := List.mem_map.mp hb
    have member := h.mem_scheduled_of_mem_begun (mem_begun_of_mem_closings h hx)
    exact apart a ha _ (List.mem_map_of_mem member)

theorem record?_attempt {a : Attempt σ} {record : FailureRecord} (h : a.record? = some record) :
    record.delivery = a.delivery.id ∧ a.refusal?.isSome = true := by
  obtain ⟨refusal, some, rfl⟩ := Option.map_eq_some_iff.mp h
  exact ⟨rfl, by rw [some]; rfl⟩

theorem record?_closing {x : Closing (Delivery σ) Ending} {record : FailureRecord}
    (h : x.record? = some record) : record.delivery = x.ticket.task.id := by
  unfold Closing.record? at h
  split at h
  · cases h
  · cases h
    rfl

theorem sublist_of_filterMap {α β : Type} {f : α → Option β} {key : α → Nat} {key' : β → Nat}
    (keys : ∀ a b, f a = some b → key' b = key a) (xs : List α) :
    ((xs.filterMap f).map key').Sublist (xs.map key) := by
  induction xs with
  | nil => exact .slnil
  | cons a rest ih =>
      cases value : f a with
      | none =>
          rw [List.filterMap_cons_none value]
          exact ih.cons _
      | some b =>
          rw [List.filterMap_cons_some value, List.map_cons, List.map_cons, keys a b value]
          exact ih.cons_cons _

theorem Balanced.records_nodup (h : c.Balanced) : (c.pushed.map (·.delivery)).Nodup := by
  rw [(h.pushed.map (·.delivery)).nodup_iff, List.map_append]
  refine (closings_distinct h).sublist (.append ?_ ?_)
  · have own : c.refused.filterMap Attempt.record? = c.attempts.filterMap Attempt.record? := by
      rw [refused, List.filterMap_filter]
      refine List.filterMap_congr fun a _ => ?_
      cases refusal : a.refusal? <;> simp [Attempt.record?, refusal]
    rw [← own]
    exact sublist_of_filterMap (fun a record h => (record?_attempt h).1) _
  · exact sublist_of_filterMap (fun x record h => record?_closing h) _

theorem Balanced.origin (h : c.Balanced) {record : FailureRecord} (hr : record ∈ c.pushed) :
    (∃ a ∈ c.attempts, a.record? = some record) ∨
      ∃ x ∈ c.dispatcher.engine.closings, x.record? = some record := by
  rcases List.mem_append.mp (h.pushed.subset hr) with hr | hr
  · exact .inl (List.mem_filterMap.mp hr)
  · exact .inr (List.mem_filterMap.mp hr)

theorem Balanced.recordsOf_attempt (h : c.Balanced) {a : Attempt σ} (ha : a ∈ c.attempts)
    {refusal : Refusal} (refused : a.refusal? = some refusal) :
    c.recordsOf a.delivery.id = [a.delivery.failure refusal.message a.time] := by
  have record : a.record? = some (a.delivery.failure refusal.message a.time) := by
    rw [Attempt.record?, refused]
    rfl
  have pushed : a.delivery.failure refusal.message a.time ∈ c.pushed :=
    h.pushed.symm.subset (List.mem_append_left _ (List.mem_filterMap.mpr ⟨a, ha, record⟩))
  exact filter_key_eq_singleton h.records_nodup pushed

/-- A delivery that has ended left a record if it failed, and none if it went well. -/
theorem Balanced.recordsOf_closing (h : c.Balanced) {x : Closing (Delivery σ) Ending}
    (hx : x ∈ c.dispatcher.engine.closings) :
    c.recordsOf x.ticket.task.id = x.record?.toList := by
  cases own : x.record? with
  | some record =>
      have pushed : record ∈ c.pushed :=
        h.pushed.symm.subset (List.mem_append_right _ (List.mem_filterMap.mpr ⟨x, hx, own⟩))
      rw [← record?_closing own]
      exact filter_key_eq_singleton h.records_nodup pushed
  | none =>
      obtain ⟨-, distinct, apart⟩ := List.nodup_append.mp (closings_distinct h)
      refine List.filter_eq_nil_iff.mpr fun record hr same => ?_
      rw [beq_iff_eq] at same
      rcases h.origin hr with ⟨a, ha, made⟩ | ⟨y, hy, made⟩
      · obtain ⟨key, refused⟩ := record?_attempt made
        have member : a ∈ c.refused := List.mem_filter.mpr ⟨ha, refused⟩
        exact apart _ (List.mem_map_of_mem member) _ (List.mem_map_of_mem hx)
          (key.symm.trans same)
      · have key := (record?_closing made).symm.trans same
        rw [List.inj_on_of_nodup_map distinct hy hx key, own] at made
        cases made

/-- A delivery that was not begun left no record, unless it was refused. -/
theorem Balanced.recordsOf_eq_nil (h : c.Balanced) (hd : d ∈ c.scheduled)
    (never : c.invocations d.id = 0) : c.recordsOf d.id = [] := by
  refine List.filter_eq_nil_iff.mpr fun record hr same => ?_
  rw [beq_iff_eq] at same
  rcases h.origin hr with ⟨a, ha, made⟩ | ⟨x, hx, made⟩
  · obtain ⟨key, refused⟩ := record?_attempt made
    have member : a ∈ c.refused := List.mem_filter.mpr ⟨ha, refused⟩
    exact (List.nodup_append.mp h.distinct).2.2 _ (List.mem_map_of_mem member) _
      (List.mem_map_of_mem hd) (key.symm.trans same)
  · have key := (record?_closing made).symm.trans same
    have once := h.invocations_eq_one (mem_begun_of_mem_closings h hx)
    rw [key, never] at once
    cases once

/-! Later on. -/

/-- What comes later: there is more in the books, and after shutdown nobody starts. -/
structure Follows (c c' : Course σ) : Prop where
  history : c.dispatcher.engine.history <+: c'.dispatcher.engine.history
  attempts : c.attempts <+: c'.attempts
  begun : c.dispatcher.engine.executor.shut = true →
    c'.dispatcher.engine.executor.shut = true ∧
      c'.dispatcher.engine.begun = c.dispatcher.engine.begun

theorem Step.follows (step : c.Step c') (h : c.Balanced) : c.Follows c' := by
  cases step with
  | attempted occasion inRuntime registered =>
      have attempted := c.attempted occasion inRuntime registered
      generalize c.attempt occasion inRuntime registered = c' at attempted
      cases attempted with
      | scheduled _ accepted =>
          have opened := (Executor.submit_eq_ok accepted).1
          refine ⟨List.prefix_rfl, List.prefix_append _ _, fun shut => ?_⟩
          rw [opened] at shut
          cases shut
      | refused _ _ =>
          exact ⟨List.prefix_rfl, List.prefix_append _ _, fun shut => ⟨shut, rfl⟩⟩
  | moved move =>
      have effect := move.effect h.steady.numbered
      refine ⟨effect.history_prefix, List.prefix_rfl, fun shut => ⟨?_, effect.begun_of_shut shut⟩⟩
      exact move.frame.shut.trans shut
  | cutOff => exact ⟨List.prefix_rfl, List.prefix_rfl, fun _ => ⟨rfl, rfl⟩⟩

theorem Balanced.follows (h : c.Balanced) (runs : c.Runs c') : c.Follows c' := by
  induction runs with
  | refl => exact ⟨List.prefix_rfl, List.prefix_rfl, fun shut => ⟨shut, rfl⟩⟩
  | tail runs step ih =>
      have next := step.follows (h.runs runs)
      refine ⟨ih.history.trans next.history, ih.attempts.trans next.attempts, fun shut => ?_⟩
      obtain ⟨still, begun⟩ := ih.begun shut
      obtain ⟨still', begun'⟩ := next.begun still
      exact ⟨still', begun'.trans begun⟩

theorem Follows.closings (h : c.Follows c') :
    c.dispatcher.engine.closings ⊆ c'.dispatcher.engine.closings := by
  obtain ⟨more, history⟩ := h.history
  intro x hx
  unfold Engine.closings at *
  rw [← history, List.filterMap_append]
  exact List.mem_append_left _ hx

/-- Who has not started by shutdown never does. -/
theorem Balanced.never_begun (h : c.Balanced) (runs : c.Runs c')
    (shut : c.dispatcher.engine.executor.shut = true) (hd : d ∈ c.scheduled)
    (waits : c.invocations d.id = 0) : c'.invocations d.id = 0 ∧ c'.recordsOf d.id = [] := by
  have follows := h.follows runs
  have never : c'.invocations d.id = 0 := by
    rw [invocations, (follows.begun shut).2]
    exact waits
  refine ⟨never, (h.runs runs).recordsOf_eq_nil ?_ never⟩
  exact ((follows.attempts.sublist.filter _).map _).subset hd

end Course
end ProjectDesk
