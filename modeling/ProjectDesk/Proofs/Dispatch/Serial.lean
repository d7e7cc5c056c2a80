import ProjectDesk.Proofs.Dispatch.Conduct
import ProjectDesk.Proofs.Dispatch.DeliveryLedger

/-!
A stateful handler has one delivery at a time, whatever topics its instance serves: who runs has the
lock, and two deliveries of one instance need the same. As long as locks are given in turn, the
deliveries that start do so in the order in which they were published.
-/

namespace ProjectDesk

theorem sublist_of_places {α β : Type} (place : β → Nat) {value : β → α} {xs : List α} {ts : List β}
    (increasing : ts.Pairwise (place · < place ·))
    (at' : ∀ t ∈ ts, xs[place t]? = some (value t)) (least : Nat)
    (bound : ∀ t ∈ ts, least ≤ place t) : (ts.map value).Sublist (xs.drop least) := by
  induction ts generalizing least with
  | nil => exact List.nil_sublist _
  | cons t rest ih =>
      obtain ⟨later, rest'⟩ := List.pairwise_cons.mp increasing
      obtain ⟨inRange, here⟩ := List.getElem?_eq_some_iff.mp (at' t (.head _))
      have others : (rest.map value).Sublist (xs.drop (place t + 1)) :=
        ih rest' (fun t' ht' => at' t' (.tail _ ht')) _ later
      refine List.Sublist.trans ?_ (List.drop_sublist_drop_left xs (bound t (.head _)))
      rw [List.drop_eq_getElem_cons inRange, here, List.map_cons]
      exact others.cons_cons _

theorem length_le_one_of_shares {τ : Type} {ts : List (Ticket τ)}
    (apart : ts.Pairwise fun t t' => ¬t.Shares t') (shares : ∀ t ∈ ts, ∀ t' ∈ ts, t.Shares t') :
    ts.length ≤ 1 := by
  cases apart with
  | nil => exact Nat.zero_le 1
  | @cons t rest others _ =>
      cases rest with
      | nil => exact Nat.le_refl 1
      | cons t' rest =>
          have both : t' ∈ t :: t' :: rest := .tail _ (.head _)
          exact absurd (shares t (.head _) t' both) (others t' (.head _))

namespace Delivery

variable {σ : Type}

/-- For the stateful instance of this number, whatever the topic. -/
def isFor (number : Nat) (d : Delivery σ) : Bool :=
  d.subscriber.handler.stateful && d.subscriber.number == number

end Delivery

namespace Course

variable {σ : Type} {c c' : Course σ} {number : Nat}
  {kept : List (Ticket (Delivery σ)) → List (Ticket (Delivery σ)) → Prop}

/-- Who has started by the end of a history and has not ended, of the deliveries of a stateful
instance. -/
def inside (number : Nat) (history : List (Milestone (Delivery σ) Ending)) :
    List (Ticket (Delivery σ)) :=
  (history.filterMap Milestone.begun?).filter fun t =>
    t.task.isFor number &&
      !(history.filterMap Milestone.closing?).any (·.ticket.task.id == t.task.id)

/-- Those who run are inside, and nobody else is. -/
theorem Balanced.inside_perm (h : c.Balanced) :
    (inside number c.dispatcher.engine.history).Perm
      ((c.dispatcher.engine.executor.running.map (·.ticket)).filter (·.task.isFor number)) := by
  unfold inside
  rw [← List.filter_filter]
  exact (filter_open_perm (fun t : Ticket (Delivery σ) => t.task.id) Closing.ticket h.booked
    h.begun_nodup).filter _

/-- Deliveries of one stateful instance need the same lock. -/
theorem Regular.shares (h : c.Regular) {t t' : Ticket (Delivery σ)}
    (ht : t ∈ c.dispatcher.engine.known) (ht' : t' ∈ c.dispatcher.engine.known)
    (own : t.task.isFor number = true) (own' : t'.task.isFor number = true) : t.Shares t' := by
  simp only [Delivery.isFor, Bool.and_eq_true, beq_iff_eq] at own own'
  obtain ⟨-, r, hr, subscriber, lock⟩ := h.known t ht
  obtain ⟨-, r', hr', subscriber', lock'⟩ := h.known t' ht'
  rw [← subscriber] at own
  rw [← subscriber'] at own'
  have same : r.lock = r'.lock :=
    (h.locked.eq_iff _ _ r hr r' hr' own.1 own'.1).mpr (own.2.trans own'.2.symm)
  have some : r.lock.isSome = true := (h.locked.isSome _ r hr).trans own.1
  obtain ⟨g, has⟩ := Option.isSome_iff_exists.mp some
  exact ⟨g, lock.symm.trans has, lock'.symm.trans (same.symm.trans has)⟩

theorem Regular.mem_known_of_mem_running (h : c.Regular) {t : Ticket (Delivery σ)}
    (ht : t ∈ c.dispatcher.engine.executor.running.map (·.ticket)) :
    t ∈ c.dispatcher.engine.known :=
  List.mem_append_right _ (h.balanced.booked.symm.subset (List.mem_append_left _ ht))

theorem Regular.length_inside_le (h : c.Regular) :
    (inside number c.dispatcher.engine.history).length ≤ 1 := by
  rw [h.balanced.inside_perm.length_eq]
  apply length_le_one_of_shares
  · exact (List.pairwise_append.mp h.exclusive).2.1.sublist List.filter_sublist
  · intro t ht t' ht'
    obtain ⟨runs, own⟩ := List.mem_filter.mp ht
    obtain ⟨runs', own'⟩ := List.mem_filter.mp ht'
    exact h.shares (h.mem_known_of_mem_running runs) (h.mem_known_of_mem_running runs') own own'

/-- The history grows by one milestone at a time. -/
theorem Regular.history (h : c.Regular) (conduct : Conduct kept c c') :
    c'.dispatcher.engine.history = c.dispatcher.engine.history ∨
      ∃ m, c'.dispatcher.engine.history = c.dispatcher.engine.history ++ [m] := by
  cases conduct with
  | @attempted occasion inRuntime registered _ =>
      have attempted := c.attempted occasion inRuntime registered
      generalize c.attempt occasion inRuntime registered = c' at attempted
      cases attempted <;> exact .inl rfl
  | moved move _ =>
      cases move.effect h.balanced.steady.numbered with
      | none _ _ history _ | left _ _ _ _ history _ => exact .inl history
      | started _ _ _ _ history _ | ended _ _ _ history _ => exact .inr ⟨_, history⟩
  | cutOff => exact .inl rfl

theorem Regular.inside_prefix (h : c.Regular) (conducts : Conducts kept c c')
    (nothing : c.dispatcher.engine.history = []) {history : List (Milestone (Delivery σ) Ending)}
    (earlier : history <+: c'.dispatcher.engine.history) : (inside number history).length ≤ 1 := by
  induction conducts with
  | refl =>
      rw [nothing, List.prefix_nil] at earlier
      rw [earlier]
      exact Nat.zero_le 1
  | @tail c₁ c₂ first conduct ih =>
      have regular := h.conducts first
      rcases regular.history conduct with same | ⟨m, grown⟩
      · rw [same] at earlier
        exact ih earlier
      · rw [grown, List.prefix_concat_iff] at earlier
        rcases earlier with rfl | before
        · rw [← grown]
          exact (regular.conduct conduct).length_inside_le
        · exact ih before

/-- Those of an instance that have started, in this order, are some of those that were scheduled. -/
theorem Regular.begun_sublist (h : c.Regular) (order : c.dispatcher.engine.standing.InOrder) :
    ((c.dispatcher.engine.begun.map (·.task)).filter (·.isFor number)).Sublist c.scheduled := by
  have known (t : Ticket (Delivery σ)) (ht : t ∈ c.dispatcher.engine.begun) :
      t ∈ c.dispatcher.engine.known := List.mem_append_right _ ht
  rw [List.filter_map]
  refine sublist_of_places (·.number) ?_ ?_ 0 fun _ _ => Nat.zero_le _
  · have begun := (List.pairwise_append.mp order.line).1
    refine (begun.sublist List.filter_sublist).imp_of_mem ?_
    intro t t' ht ht' before
    obtain ⟨started, own⟩ := List.mem_filter.mp ht
    obtain ⟨started', own'⟩ := List.mem_filter.mp ht'
    exact before (h.shares (known t started) (known t' started') own own')
  · intro t ht
    exact (h.known t (known t (List.mem_of_mem_filter ht))).1

/-- All that a dispatcher can be used for is covered; locks may be asked for in any order, but for
the order of starts. -/
theorem stateful_serialized {settings : DispatcherConfig} {timeout : Time.Span}
    {entries : List (Registration σ)} {world : σ} {start : Dispatcher σ}
    (made : Dispatcher.new? settings timeout entries world = some start) :
    (∀ uses : List Dispatcher.Use, ∃ c, Conducts (InTurn σ) { dispatcher := start } c ∧
      c.dispatcher = uses.foldl Dispatcher.use start) ∧
    (∀ c, Conducts (AnyOrder σ) { dispatcher := start } c → ∀ number history,
      history <+: c.dispatcher.engine.history → (inside number history).length ≤ 1) ∧
    ∀ c, Conducts (InTurn σ) { dispatcher := start } c → ∀ number,
      ((c.dispatcher.engine.begun.map (·.task)).filter (·.isFor number)).Sublist c.scheduled := by
  obtain ⟨regular, order⟩ := regular_of_new? made
  have nothing : start.engine.history = [] := by
    obtain ⟨executor, -, made⟩ := Option.bind_eq_some_iff.mp made
    cases made
    rfl
  refine ⟨fun uses => conducts_uses uses _, ?_, ?_⟩
  · intro c conducts number history earlier
    exact regular.inside_prefix conducts nothing earlier
  · intro c conducts number
    exact (regular.conducts conducts).begun_sublist (regular.inOrder order conducts)

/-- One instance for two topics, with an event for each. -/
theorem stateful_serialized_two_topics : ∃ (start : Dispatcher Unit) (c : Course Unit),
    Dispatcher.new? {} (.ofSeconds 60)
      [⟨Topic.approveRequest, failing 5⟩, ⟨Topic.rejectRequest, failing 5⟩] () = some start ∧
    Conducts (InTurn Unit) { dispatcher := start } c ∧
    c.dispatcher.engine.begun.map (·.task.occasion.topic) =
      [Topic.rejectRequest, Topic.approveRequest] ∧
    (∀ history, history <+: c.dispatcher.engine.history → (inside 0 history).length ≤ 1) ∧
    ((c.dispatcher.engine.begun.map (·.task)).filter (·.isFor 0)).Sublist c.scheduled := by
  obtain ⟨start, made⟩ : ∃ start, Dispatcher.new? {} (.ofSeconds 60)
      [⟨Topic.approveRequest, failing 5⟩, ⟨Topic.rejectRequest, failing 5⟩] () = some start :=
    ⟨_, rfl⟩
  obtain ⟨used, alone, inOrder⟩ := stateful_serialized made
  let event : RequestEvent :=
    ⟨Topic.rejectRequest, 1, "alpha", 1, "root", ⟨⟨2026, 6, 1⟩, 12, 0, 0, 0⟩⟩
  obtain ⟨c, conducts, dispatcher⟩ := used
    [.publish "root" Topic.rejectRequest (.rejectRequest event) true,
      .publish "root" Topic.approveRequest (.approveRequest event) true, .drain]
  have free : Conducts (AnyOrder Unit) { dispatcher := start } c :=
    Relation.ReflTransGen.mono (fun _ _ => Conduct.anyOrder) _ _ conducts
  refine ⟨start, c, made, conducts, ?_, alone c free 0, inOrder c conducts 0⟩
  rw [dispatcher]
  cases made
  decide +kernel

end Course
end ProjectDesk
