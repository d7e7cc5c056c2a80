import Mathlib.Data.List.Dedup
import ProjectDesk.Proofs.Dispatch.Serial

/-!
All slots that can be used are used, and no more. Slots are in use, or were handed to somebody who
has not started yet; there are never more of them than the executor has. Once nobody is called,
whoever has a gate runs or waits for a slot, and somebody waits for a slot only if none is free. The
others wait for a gate that is taken.
-/

namespace ProjectDesk

namespace Executor

variable {τ ρ : Type} {x x' : Executor τ ρ} {r : Running τ ρ}

/-- Those who run, and those who were handed a slot. -/
def slotHolders (x : Executor τ ρ) : List (Ticket τ) :=
  x.running.map (·.ticket) ++ (x.called.filter (·.stage == .slotted)).map (·.ticket)

theorem length_slotHolders (x : Executor τ ρ) : x.slotHolders.length = x.slotsTaken := by
  simp only [slotHolders, slotsTaken, List.length_append, List.length_map,
    List.countP_eq_length_filter]

/-- Nobody has a slot while waiting for a gate. -/
theorem Numbered.not_mem_slotHolders (h : x.Numbered) {t : Ticket τ} (ht : t ∈ x.gateLine) :
    t ∉ x.slotHolders := by
  have tickets : x.tickets.Perm
      (x.gateLine ++ (x.slotLine ++ (x.called.map (·.ticket) ++ x.running.map (·.ticket)))) := by
    rw [Executor.tickets, queued, List.append_assoc, List.append_assoc]
    exact List.perm_append_comm_assoc _ _ _
  have distinct := tickets.nodup_iff.mp (.of_map _ h.distinct)
  have apart := (List.nodup_append.mp distinct).2.2 t ht
  intro holds
  refine apart t (List.mem_append_right _ ?_) rfl
  rcases List.mem_append.mp holds with runs | called
  · exact List.mem_append_right _ runs
  · exact List.mem_append_left _ ((List.filter_sublist.map _).subset called)

/-! No more slots than there are. -/

theorem slotsTaken_passSlot_le (x : Executor τ ρ) : x.passSlot.slotsTaken ≤ x.slotsTaken + 1 := by
  by_cases waiting : x.slotLine = []
  · rw [passSlot, waiting]
    exact Nat.le_succ _
  · exact Nat.le_of_eq (slotsTaken_passSlot waiting)

theorem slotsTaken_finish (numbered : x.Numbered) (hr : r ∈ x.running) :
    (x.finish r).slotsTaken ≤ x.slotsTaken := by
  have left := (numbered.running_finish hr).length_eq
  rw [running_finish, List.length_cons] at left
  rw [finish_eq, (slotLine_passGate r.ticket.gate (x.vacate r).passSlot).2]
  refine Nat.le_trans (slotsTaken_passSlot_le (x.vacate r)) ?_
  simp only [slotsTaken, vacate] at left ⊢
  omega

end Executor

namespace Engine

variable {τ ρ σ : Type} {work : Work τ ρ σ} {e e' : Engine τ ρ σ}

theorem Move.slotsTaken (numbered : e.executor.Numbered) (h : Move work e e')
    (within : e.executor.slotsTaken ≤ e.executor.slots) :
    e'.executor.slotsTaken ≤ e'.executor.slots := by
  rw [h.frame.slots]
  cases h with
  | reordered called' _ _ running' =>
      unfold Executor.slotsTaken
      rw [running'.length_eq, called'.countP_eq]
      exact within
  | waits _ turn =>
      obtain ⟨stage, t, rest, called, moved⟩ := Executor.turn?_eq_some turn
      rw [Executor.slotsTaken_of_called called] at within
      cases moved with
      | waitsForSlot _ _ | waitsForGate _ => exact Nat.le_trans (Nat.le_add_right _ _) within
  | @starts x t _ turn =>
      obtain ⟨stage, t, rest, called, moved⟩ := Executor.turn?_eq_some turn
      rw [Executor.slotsTaken_of_called called] at within
      have one : (start work t { e with executor := x }).executor.slotsTaken = x.slotsTaken + 1 := by
        simp only [start, Executor.start, Executor.slotsTaken, List.length_append,
          List.length_singleton]
        omega
      cases moved with
      | starts free =>
          rw [one]
          rcases free with slotted | free
          · rwa [if_pos slotted] at within
          · exact free
  | ends running _ => exact Nat.le_trans (Executor.slotsTaken_finish numbered running) within
  | leave _ called' _ _ => exact Nat.le_trans (Nat.add_le_add_left called'.countP_le _) within
  | waited _ => exact within

end Engine

namespace Delivery

variable {σ : Type}

def isStateful (d : Delivery σ) : Bool :=
  d.subscriber.handler.stateful

/-- How many slots all of these can make use of: each that is not for a stateful instance one, and
each stateful instance one. -/
def demand (ds : List (Delivery σ)) : Nat :=
  (ds.filter (!·.isStateful)).length +
    ((ds.filter (·.isStateful)).map (·.subscriber.number)).dedup.length

theorem demand_perm {ds ds' : List (Delivery σ)} (perm : ds.Perm ds') :
    demand ds = demand ds' := by
  unfold demand
  rw [(perm.filter _).length_eq, ((perm.filter _).map _).dedup.length_eq]

/-- More for instances that have one of these already make no use of more slots. -/
theorem demand_append {more ds : List (Delivery σ)} (stateful : ∀ d ∈ more, d.isStateful = true)
    (known : ∀ d ∈ more, ∃ d' ∈ ds, d'.isFor d.subscriber.number = true)
    (distinct : ((ds.filter (·.isStateful)).map (·.subscriber.number)).Nodup) :
    demand (more ++ ds) = ds.length := by
  have none : more.filter (!·.isStateful) = [] := by
    refine List.filter_eq_nil_iff.mpr fun d hd => ?_
    rw [stateful d hd]
    exact Bool.false_ne_true
  have numbers : (more.filter (·.isStateful)).map (·.subscriber.number) ⊆
      (ds.filter (·.isStateful)).map (·.subscriber.number) := by
    intro number hnumber
    obtain ⟨d, hd, rfl⟩ := List.mem_map.mp hnumber
    obtain ⟨d', hd', own⟩ := known d (List.mem_of_mem_filter hd)
    simp only [isFor, Bool.and_eq_true, beq_iff_eq] at own
    exact List.mem_map.mpr ⟨d', List.mem_filter.mpr ⟨hd', own.1⟩, own.2⟩
  have split := (List.filter_append_perm (·.isStateful) ds).length_eq
  rw [List.length_append] at split
  rw [demand, List.filter_append, none, List.nil_append, List.filter_append, List.map_append,
    numbers.dedup_append_right, distinct.dedup, List.length_map]
  omega

theorem demand_pos {d : Delivery σ} {ds : List (Delivery σ)} (hd : d ∈ ds) : 0 < demand ds := by
  unfold demand
  cases stateful : d.isStateful with
  | false =>
      have one : d ∈ ds.filter (!·.isStateful) := List.mem_filter.mpr ⟨hd, by simp [stateful]⟩
      exact Nat.add_pos_left (List.length_pos_of_mem one) _
  | true =>
      have one : d ∈ ds.filter (·.isStateful) := List.mem_filter.mpr ⟨hd, stateful⟩
      have number := List.mem_dedup.mpr (List.mem_map_of_mem (f := (·.subscriber.number)) one)
      exact Nat.add_pos_right _ (List.length_pos_of_mem number)

end Delivery

namespace Course

variable {σ : Type} {c c' : Course σ} {kept : List (Ticket (Delivery σ)) →
  List (Ticket (Delivery σ)) → Prop}

/-- Scheduled and not ended. -/
def unfinished (c : Course σ) : List (Delivery σ) :=
  c.scheduled.filter fun d => !c.dispatcher.engine.closings.any (·.ticket.task.id == d.id)

theorem Balanced.unfinished_perm (h : c.Balanced)
    (opened : c.dispatcher.engine.executor.shut = false) :
    c.unfinished.Perm (c.dispatcher.engine.executor.tickets.map (·.task)) := by
  obtain ⟨gone, scheduled, none⟩ := h.scheduled
  rw [none opened, List.append_nil] at scheduled
  exact filter_open_perm Delivery.id (fun x : Closing (Delivery σ) Ending => x.ticket.task) scheduled
    (List.nodup_append.mp h.distinct).2.1

/-! Who has a gate, once nobody is called. -/

theorem Regular.isStateful_eq (h : c.Regular) {t : Ticket (Delivery σ)}
    (ht : t ∈ c.dispatcher.engine.known) : t.task.isStateful = t.gate.isSome := by
  obtain ⟨-, r, hr, subscriber, lock⟩ := h.known t ht
  rw [← lock, h.locked.isSome _ r hr, subscriber]
  rfl

theorem Regular.mem_known_of_holds (h : c.Regular) {t : Ticket (Delivery σ)}
    (holds : c.dispatcher.engine.executor.Holds t) : t ∈ c.dispatcher.engine.known := by
  rcases List.mem_append.mp (Executor.holds_iff.mp holds) with ready | runs
  · exact List.mem_append_left _ (Executor.asking_subset _ (List.mem_append_right _ ready))
  · exact h.mem_known_of_mem_running runs

/-- Those who need the same lock are for the same instance. -/
theorem Regular.isFor_of_shares (h : c.Regular) {t t' : Ticket (Delivery σ)}
    (ht : t ∈ c.dispatcher.engine.known) (ht' : t' ∈ c.dispatcher.engine.known)
    (shares : t.Shares t') : t'.task.isFor t.task.subscriber.number = true := by
  obtain ⟨g, needs, needs'⟩ := shares
  have stateful := h.isStateful_eq ht
  have stateful' := h.isStateful_eq ht'
  rw [needs] at stateful
  rw [needs'] at stateful'
  obtain ⟨-, r, hr, subscriber, lock⟩ := h.known t ht
  obtain ⟨-, r', hr', subscriber', lock'⟩ := h.known t' ht'
  have same : r'.lock = r.lock := by rw [lock, lock', needs, needs']
  rw [Delivery.isStateful, ← subscriber] at stateful
  rw [Delivery.isStateful, ← subscriber'] at stateful'
  have number := (h.locked.eq_iff _ _ r' hr' r hr stateful' stateful).mp same
  rw [Delivery.isFor, ← subscriber, ← subscriber', stateful', number]
  simp

/-- Whoever waits for a gate waits for somebody of the same instance, who has it. -/
theorem Regular.exists_isFor (h : c.Regular)
    (opened : c.dispatcher.engine.executor.shut = false) {t : Ticket (Delivery σ)}
    (ht : t ∈ c.dispatcher.engine.executor.gateLine) :
    t.task.isStateful = true ∧ ∃ t', c.dispatcher.engine.executor.Holds t' ∧
      t'.task.isFor t.task.subscriber.number = true := by
  have waits : t ∈ c.dispatcher.engine.known :=
    List.mem_append_left _ (List.mem_append_left _ (List.mem_append_right _ ht))
  obtain ⟨g, needs, t', holds, same⟩ := (h.balanced.steady.served opened).gate t ht
  refine ⟨by rw [h.isStateful_eq waits, needs]; rfl, t', holds, ?_⟩
  exact h.isFor_of_shares waits (h.mem_known_of_holds holds) ⟨g, needs, same⟩

/-- No instance has a gate twice. -/
theorem Regular.numbers_nodup (h : c.Regular) {ts : List (Ticket (Delivery σ))}
    (known : ∀ t ∈ ts, t ∈ c.dispatcher.engine.known)
    (apart : ts.Pairwise fun t t' => ¬t.Shares t') :
    (((ts.map (·.task)).filter (·.isStateful)).map (·.subscriber.number)).Nodup := by
  rw [List.filter_map, List.map_map]
  refine List.pairwise_map.mpr ((apart.sublist List.filter_sublist).imp_of_mem ?_)
  intro t t' ht ht' apart same
  obtain ⟨member, stateful⟩ := List.mem_filter.mp ht
  obtain ⟨member', stateful'⟩ := List.mem_filter.mp ht'
  have own : t.task.isFor t.task.subscriber.number = true :=
    Bool.and_eq_true_iff.mpr ⟨stateful, beq_self_eq_true _⟩
  have own' : t'.task.isFor t.task.subscriber.number = true :=
    Bool.and_eq_true_iff.mpr ⟨stateful', beq_iff_eq.mpr same.symm⟩
  exact apart (h.shares (known t member) (known t' member') own own')

/-- What is asked for is what those who have their gates ask for. -/
theorem Regular.demand_unfinished (h : c.Regular)
    (opened : c.dispatcher.engine.executor.shut = false)
    (nobody : c.dispatcher.engine.executor.called = []) :
    Delivery.demand c.unfinished = c.dispatcher.engine.executor.slotLine.length +
      c.dispatcher.engine.executor.running.length := by
  set x := c.dispatcher.engine.executor with hx
  let holders := x.slotLine ++ x.running.map (·.ticket)
  have ready : x.ready = x.slotLine := by
    simp [Executor.ready, Executor.handed, nobody]
  have holds (t : Ticket (Delivery σ)) : x.Holds t ↔ t ∈ holders := by
    rw [Executor.holds_iff, ready]
  have exclusive : holders.Pairwise fun t t' => ¬t.Shares t' := by
    have exclusive : (x.ready ++ x.running.map (·.ticket)).Pairwise fun t t' => ¬t.Shares t' :=
      h.exclusive
    rwa [ready] at exclusive
  have tickets : x.tickets.Perm (x.gateLine ++ holders) := by
    rw [Executor.tickets, Executor.queued, nobody, List.map_nil, List.append_nil,
      List.append_assoc]
    exact List.perm_append_comm_assoc _ _ _
  have deliveries := (h.balanced.unfinished_perm opened).trans (tickets.map (·.task))
  rw [Delivery.demand_perm deliveries, List.map_append, Delivery.demand_append]
  · simp [holders]
  · intro d hd
    obtain ⟨t, ht, rfl⟩ := List.mem_map.mp hd
    exact (h.exists_isFor opened ht).1
  · intro d hd
    obtain ⟨t, ht, rfl⟩ := List.mem_map.mp hd
    obtain ⟨-, t', held, own⟩ := h.exists_isFor opened ht
    exact ⟨t'.task, List.mem_map_of_mem ((holds t').mp held), own⟩
  · exact h.numbers_nodup (fun t ht => h.mem_known_of_holds ((holds t).mpr ht)) exclusive

theorem Conducts.slotsTaken (h : c.Regular) (conducts : Conducts kept c c')
    (within : c.dispatcher.engine.executor.slotsTaken ≤ c.dispatcher.engine.executor.slots) :
    c'.dispatcher.engine.executor.slots = c.dispatcher.engine.executor.slots ∧
      c'.dispatcher.engine.executor.slotsTaken ≤ c'.dispatcher.engine.executor.slots := by
  induction conducts with
  | refl => exact ⟨rfl, within⟩
  | @tail c₁ c₂ first conduct ih =>
      obtain ⟨slots, within⟩ := ih
      cases conduct with
      | @attempted occasion inRuntime registered _ =>
          have attempted := c₁.attempted occasion inRuntime registered
          generalize c₁.attempt occasion inRuntime registered = c' at attempted
          cases attempted with
          | scheduled _ accepted =>
              obtain ⟨-, -, rfl⟩ := Executor.submit_eq_ok accepted
              refine ⟨slots, ?_⟩
              simpa [Executor.slotsTaken, Executor.call] using within
          | refused _ _ => exact ⟨slots, within⟩
      | moved move _ =>
          have numbered := (h.conducts first).balanced.steady.numbered
          exact ⟨move.frame.slots.trans slots, move.slotsTaken numbered within⟩
      | cutOff =>
          refine ⟨slots, ?_⟩
          simpa [Course.cutOff, goOn, Dispatcher.cutOff, Executor.slotsTaken, Executor.interrupt,
            Executor.shutDown] using within

/-- All slots are taken, or there is one for everybody. -/
theorem Regular.length_running (h : c.Regular)
    (within : c.dispatcher.engine.executor.slotsTaken ≤ c.dispatcher.engine.executor.slots)
    (opened : c.dispatcher.engine.executor.shut = false)
    (settled : c.dispatcher.engine.executor.turn? = none) :
    c.dispatcher.engine.executor.running.length =
      min c.dispatcher.engine.executor.slots (Delivery.demand c.unfinished) := by
  have nobody := Executor.turn?_eq_none.mp settled
  have demand := h.demand_unfinished opened nobody
  have taken : c.dispatcher.engine.executor.slotsTaken =
      c.dispatcher.engine.executor.running.length := by
    rw [Executor.slotsTaken, nobody]
    rfl
  rw [taken] at within
  by_cases waiting : c.dispatcher.engine.executor.slotLine = []
  · rw [waiting, List.length_nil, Nat.zero_add] at demand
    rw [demand, Nat.min_eq_right within]
  · have full := (h.balanced.steady.served opened).slot waiting
    rw [taken] at full
    rw [Nat.min_eq_left (by omega)]
    exact Nat.le_antisymm within full

/-- Where deliveries are left, some are running. -/
theorem Regular.running_ne_nil (h : c.Regular)
    (running : c.dispatcher.engine.executor.running.length =
      min c.dispatcher.engine.executor.slots (Delivery.demand c.unfinished))
    (left : c.unfinished ≠ []) : c.dispatcher.engine.executor.running ≠ [] := by
  obtain ⟨d, hd⟩ := List.exists_mem_of_ne_nil _ left
  have slots := h.balanced.steady.slots
  have demand : 0 < Delivery.demand c.unfinished := Delivery.demand_pos hd
  rw [← List.length_pos_iff, running]
  exact Nat.lt_min.mpr ⟨slots, demand⟩

/-- Deliveries may go on in any order. Before shutdown, and once nobody is called, exactly as many
run as there are slots or as slots can be made use of. -/
theorem concurrency_used {settings : DispatcherConfig} {timeout : Time.Span}
    {entries : List (Registration σ)} {world : σ} {start : Dispatcher σ}
    (made : Dispatcher.new? settings timeout entries world = some start) :
    (∀ uses : List Dispatcher.Use, ∃ c, Conducts (AnyOrder σ) { dispatcher := start } c ∧
      c.dispatcher = uses.foldl Dispatcher.use start) ∧
    ∀ c, Conducts (AnyOrder σ) { dispatcher := start } c →
      let x := c.dispatcher.engine.executor
      let limit := max 1 settings.maxConcurrentHandlers
      x.running.length ≤ limit ∧ x.slotHolders.length ≤ limit ∧
      (∀ t ∈ x.gateLine, t ∉ x.slotHolders) ∧
      (x.shut = false → x.turn? = none →
        x.running.length = min limit (Delivery.demand c.unfinished) ∧
        (c.unfinished ≠ [] → x.running ≠ [])) := by
  obtain ⟨regular, -⟩ := regular_of_new? made
  have slots : start.engine.executor.slots = max 1 settings.maxConcurrentHandlers ∧
      start.engine.executor.slotsTaken = 0 := by
    obtain ⟨executor, new, made⟩ := Option.bind_eq_some_iff.mp made
    cases made
    obtain ⟨-, new⟩ := Option.ite_none_right_eq_some.mp new
    cases new
    exact ⟨Nat.max_comm _ _, rfl⟩
  refine ⟨fun uses => ?_, ?_⟩
  · obtain ⟨c, conducts, dispatcher⟩ := conducts_uses uses { dispatcher := start }
    exact ⟨c, Relation.ReflTransGen.mono (fun _ _ => Conduct.anyOrder) _ _ conducts, dispatcher⟩
  · intro c conducts x limit
    have within : start.engine.executor.slotsTaken ≤ start.engine.executor.slots := by
      rw [slots.2]
      exact Nat.zero_le _
    obtain ⟨same, within⟩ := Conducts.slotsTaken regular conducts within
    have limited : x.slots = limit := same.trans slots.1
    have regular := regular.conducts conducts
    refine ⟨?_, ?_, ?_, ?_⟩
    · rw [← limited]
      exact Nat.le_trans (Nat.le_add_right _ _) within
    · rw [x.length_slotHolders, ← limited]
      exact within
    · exact fun t ht => regular.balanced.steady.numbered.not_mem_slotHolders ht
    · intro opened settled
      have running := regular.length_running within opened settled
      rw [← limited]
      exact ⟨running, regular.running_ne_nil running⟩

/-- Two events for a handler with a lock and for one without: one of the four deliveries waits for
the lock, and the others have all the slots. -/
theorem concurrency_used_queued : ∃ (start : Dispatcher Unit) (c : Course Unit),
    Dispatcher.new? { maxConcurrentHandlers := 4 } (.ofSeconds 60)
      [⟨Topic.approveRequest, failing 5⟩,
        ⟨Topic.approveRequest, ⟨1, "mailer", false, (failing 5).handler.handle⟩⟩] () =
      some start ∧
    Conducts (AnyOrder Unit) { dispatcher := start } c ∧
    c.dispatcher.engine.executor.gateLine.length = 1 ∧
    c.dispatcher.engine.executor.running.length = 3 ∧ Delivery.demand c.unfinished = 3 := by
  obtain ⟨start, made⟩ : ∃ start, Dispatcher.new? { maxConcurrentHandlers := 4 } (.ofSeconds 60)
      [⟨Topic.approveRequest, failing 5⟩,
        ⟨Topic.approveRequest, ⟨1, "mailer", false, (failing 5).handler.handle⟩⟩] () =
      some start := ⟨_, rfl⟩
  obtain ⟨used, concurrency⟩ := concurrency_used made
  let event : RequestEvent :=
    ⟨Topic.approveRequest, 1, "alpha", 1, "root", ⟨⟨2026, 6, 1⟩, 12, 0, 0, 0⟩⟩
  let publish : Dispatcher.Use := .publish "root" Topic.approveRequest (.approveRequest event) true
  obtain ⟨c, conducts, dispatcher⟩ := used [publish, publish, .advance 0]
  obtain ⟨-, -, -, used⟩ := concurrency c conducts
  obtain ⟨waiting, running, opened, settled⟩ :
      c.dispatcher.engine.executor.gateLine.length = 1 ∧
      c.dispatcher.engine.executor.running.length = 3 ∧
      c.dispatcher.engine.executor.shut = false ∧
      c.dispatcher.engine.executor.turn?.isNone = true := by
    rw [dispatcher]
    cases made
    decide +kernel
  obtain ⟨all, -⟩ := used opened (Option.isNone_iff_eq_none.mp settled)
  refine ⟨start, c, made, conducts, waiting, running, ?_⟩
  rw [running] at all
  simp only [Nat.min_def] at all
  split at all <;> omega

end Course
end ProjectDesk
