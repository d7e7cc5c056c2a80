import ProjectDesk.Proofs.Dispatch.Books
import ProjectDesk.Proofs.Dispatch.Locks
import ProjectDesk.Proofs.Dispatch.Standing

/-!
A dispatcher as it is used: deliveries are attempted for the subscribers of their topic. So each one
needs the lock of its subscriber, and the number of its ticket is its place among those that were
scheduled.
-/

namespace ProjectDesk

namespace Executor

variable {τ ρ : Type} {x x' : Executor τ ρ}

theorem queued_submit {gate : Option Nat} {task : τ} {inRuntime : Bool}
    (accepted : x.submit gate task inRuntime = .ok x') :
    x'.queued = x.queued ++ [⟨x.issued, gate, task⟩] ∧ x'.issued = x.issued + 1 := by
  obtain ⟨-, -, rfl⟩ := submit_eq_ok accepted
  exact ⟨queued_call _ _ x, rfl⟩

theorem asking_turn? {started : Option (Ticket τ)} (turn : x.turn? = some (started, x')) :
    x'.asking.Sublist x.asking := by
  obtain ⟨stage, t, rest, called, moved⟩ := turn?_eq_some turn
  have stands := standing_of_called called
  split at stands
  · rw [stands.2]
    cases moved with
    | starts _ | waitsForSlot _ _ => exact (List.sublist_cons_self t _).append_left _
    | waitsForGate _ =>
        change List.Sublist ((x.gateLine ++ [t]) ++ newcomers { x with called := rest }) _
        rw [List.append_assoc]
        exact .refl _
  · rename_i something
    rw [stands.2]
    cases moved with
    | starts _ | waitsForSlot _ _ => exact .refl _
    | waitsForGate _ => exact absurd rfl something

theorem asking_finish (r : Running τ ρ) (x : Executor τ ρ) :
    (x.finish r).asking.Sublist x.asking := by
  have slot := (standing_passSlot (x.vacate r)).2
  rw [finish_eq]
  change List.Sublist _ (x.vacate r).asking
  rw [← slot]
  unfold passGate
  split
  · exact .refl _
  · split
    · exact .refl _
    · have something : Stage.gated ≠ .fresh := by decide
      rw [(call_handed something).2]
      exact List.eraseP_sublist.append_right _

theorem asking_subset (x : Executor τ ρ) : x.asking ++ x.ready ⊆ x.queued := by
  intro t ht
  simp only [asking, ready, newcomers, handed, queued, List.mem_append, List.mem_map,
    List.mem_filter] at ht ⊢
  grind

end Executor

namespace Engine

variable {τ ρ σ : Type} {work : Work τ ρ σ} {e e' : Engine τ ρ σ}

/-- In the engine's own course nobody overtakes who asks for a gate. -/
theorem Goes.asking (h : Goes work e e') : e'.executor.asking.Sublist e.executor.asking := by
  cases h with
  | stepped h =>
      cases h with
      | withdrew _ _ => exact List.nil_sublist _
      | ended _ _ => exact Executor.asking_finish _ _
      | waited _ turn => exact Executor.asking_turn? turn
      | started _ turn =>
          have passed := Executor.asking_turn? turn
          exact passed
  | waited _ => exact .refl _

/-- Who was accepted and is known still: those who wait, and everybody who has ever started. -/
def known (e : Engine τ ρ σ) : List (Ticket τ) :=
  e.executor.queued ++ e.begun

theorem Effect.known (h : Effect work e e') {t : Ticket τ} (ht : t ∈ e'.known) : t ∈ e.known := by
  unfold Engine.known begun at *
  rw [List.mem_append] at *
  cases h with
  | none queued _ history _ =>
      rw [history] at ht
      exact ht.imp_left fun waits => queued.subset waits
  | left gone _ queued _ history _ =>
      rw [history] at ht
      exact ht.imp_left fun waits => queued.symm.subset (List.mem_append_left _ waits)
  | started t' _ queued _ history _ =>
      rw [history, List.filterMap_append, List.mem_append] at ht
      rcases ht with waits | begun | now
      · exact .inl (queued.symm.subset (.tail _ waits))
      · exact .inr begun
      · rw [List.mem_singleton.mp now]
        exact .inl (queued.symm.subset (.head _))
  | ended r queued _ history _ =>
      rw [history, List.filterMap_append, List.mem_append] at ht
      rcases ht with waits | begun | now
      · exact .inl (queued.subset waits)
      · exact .inr begun
      · cases now

end Engine

namespace Dispatcher

/-- What a dispatcher is there for. -/
inductive Use where
  | publish (operator topic : String) (event : DomainEvent) (inRuntime : Bool)
  | advance (ms : Nat)
  | drain
  | shutDown

variable {σ : Type}

def use (d : Dispatcher σ) : Use → Dispatcher σ
  | .publish operator topic event inRuntime => (d.publish operator topic event inRuntime).2
  | .advance ms => d.advance ms
  | .drain => d.drain
  | .shutDown => d.shutDown

end Dispatcher

namespace Course

variable {σ : Type} {c c' : Course σ}
  {kept : List (Ticket (Delivery σ)) → List (Ticket (Delivery σ)) → Prop}

/-- A step in which a subscriber of the topic is tried, or in which those who ask for gates keep
their places or change them as given. -/
inductive Conduct (kept : List (Ticket (Delivery σ)) → List (Ticket (Delivery σ)) → Prop)
    (c : Course σ) : Course σ → Prop
  | attempted {occasion : Occasion} {inRuntime : Bool} {registered : RegisteredHandler σ}
      (subscribed : registered ∈ c.dispatcher.registry.lookup occasion.topic) :
      Conduct kept c (c.attempt occasion inRuntime registered)
  | moved {e : Engine (Delivery σ) Ending (Backstage σ)}
      (h : c.dispatcher.engine.Move (Delivery.work c.dispatcher.timeout) e)
      (places : kept e.executor.asking c.dispatcher.engine.executor.asking) :
      Conduct kept c (c.goOn { c.dispatcher with engine := e })
  | cutOff : Conduct kept c c.cutOff

def Conducts (kept : List (Ticket (Delivery σ)) → List (Ticket (Delivery σ)) → Prop) :
    Course σ → Course σ → Prop :=
  Relation.ReflTransGen (Conduct kept)

/-- Gates are asked for in any order. -/
abbrev AnyOrder (σ : Type) (_ _ : List (Ticket (Delivery σ))) : Prop := True

/-- Locks are given in the order in which they are asked for, and tasks are called for the first
time in the order of their acceptance. -/
abbrev InTurn (σ : Type) (asking asking' : List (Ticket (Delivery σ))) : Prop :=
  asking.Sublist asking'

theorem Conduct.step (h : Conduct kept c c') : c.Step c' := by
  cases h with
  | attempted _ => exact .attempted _ _ _
  | moved h _ => exact .moved h
  | cutOff => exact .cutOff

theorem Conduct.anyOrder (h : Conduct kept c c') : Conduct (AnyOrder σ) c c' := by
  cases h with
  | attempted subscribed => exact .attempted subscribed
  | moved h _ => exact .moved h trivial
  | cutOff => exact .cutOff

theorem Conduct.registry (h : Conduct kept c c') :
    c'.dispatcher.registry = c.dispatcher.registry :=
  h.step.registry

/-! All that is done with a dispatcher. -/

theorem conducts_attemptAll {occasion : Occasion} {inRuntime : Bool}
    {entries : List (RegisteredHandler σ)}
    (subscribed : entries ⊆ c.dispatcher.registry.lookup occasion.topic) :
    Conducts kept c (c.attemptAll occasion inRuntime entries) := by
  induction entries generalizing c with
  | nil => exact .refl
  | cons registered rest ih =>
      have first : Conduct kept c (c.attempt occasion inRuntime registered) :=
        .attempted (subscribed (.head _))
      refine .head first (ih ?_)
      rw [first.registry]
      exact List.subset_of_cons_subset subscribed

theorem conducts_of_goes {e : Engine (Delivery σ) Ending (Backstage σ)}
    (h : Relation.ReflTransGen (Engine.Goes (Delivery.work c.dispatcher.timeout))
      c.dispatcher.engine e) :
    ∃ c', Conducts (InTurn σ) c c' ∧ c'.dispatcher = { c.dispatcher with engine := e } := by
  obtain ⟨c', path, dispatcher, -⟩ := exists_along h rfl
  refine ⟨c', Relation.ReflTransGen.mono ?_ _ _ path, dispatcher⟩
  rintro _ _ ⟨e, goes, rfl⟩
  exact .moved goes.move goes.asking

theorem conducts_use (use : Dispatcher.Use) (c : Course σ) :
    ∃ c', Conducts (InTurn σ) c c' ∧ c'.dispatcher = c.dispatcher.use use := by
  cases use with
  | publish operator topic event inRuntime =>
      exact ⟨_, conducts_attemptAll (List.Subset.refl _), dispatcher_attemptAll _ _ _ c⟩
  | advance ms => exact conducts_of_goes (Engine.goes_advance ms _)
  | drain => exact conducts_of_goes (Engine.goes_drain _)
  | shutDown =>
      obtain ⟨c', conducts, dispatcher⟩ :=
        conducts_of_goes (Engine.goes_drain c.cutOff.dispatcher.engine)
      exact ⟨c', conducts.head .cutOff, dispatcher⟩

theorem conducts_uses (uses : List Dispatcher.Use) (c : Course σ) :
    ∃ c', Conducts (InTurn σ) c c' ∧ c'.dispatcher = uses.foldl Dispatcher.use c.dispatcher := by
  induction uses generalizing c with
  | nil => exact ⟨c, .refl, rfl⟩
  | cons use rest ih =>
      obtain ⟨next, first, dispatcher⟩ := c.conducts_use use
      obtain ⟨c', others, last⟩ := ih next
      exact ⟨c', first.trans others, by rw [last, dispatcher]; rfl⟩

/-! Who is known. -/

/-- Scheduled under the number of its ticket, for a subscriber whose lock it needs. -/
def Entered (c : Course σ) (t : Ticket (Delivery σ)) : Prop :=
  c.scheduled[t.number]? = some t.task ∧
    ∃ r ∈ c.dispatcher.registry.lookup t.task.occasion.topic,
      r.subscriber = t.task.subscriber ∧ r.lock = t.gate

structure Regular (c : Course σ) : Prop where
  balanced : c.Balanced
  locked : c.dispatcher.registry.Locked
  issued : c.dispatcher.engine.executor.issued = c.scheduled.length
  known : ∀ t ∈ c.dispatcher.engine.known, c.Entered t
  exclusive : c.dispatcher.engine.standing.Exclusive

theorem Regular.number_lt (h : c.Regular) {t : Ticket (Delivery σ)}
    (ht : t ∈ c.dispatcher.engine.known) :
    t.number < c.dispatcher.engine.executor.issued := by
  rw [h.issued]
  exact (List.getElem?_eq_some_iff.mp (h.known t ht).1).1

theorem Regular.steps (h : c.Regular) (conduct : Conduct kept c c') :
    Standing.Steps kept c.dispatcher.engine.standing c'.dispatcher.engine.standing := by
  cases conduct with
  | @attempted occasion inRuntime registered _ =>
      have attempted := c.attempted occasion inRuntime registered
      generalize c.attempt occasion inRuntime registered = c' at attempted
      cases attempted with
      | scheduled _ accepted =>
          refine .single ?_
          change Standing.Step kept _ (Executor.standing c.dispatcher.engine.begun _)
          rw [Executor.asking_submit accepted]
          refine .arrives ?_
          intro t ht
          refine h.number_lt ?_
          rcases List.mem_append.mp ht with waits | begun
          · exact List.mem_append_left _ (Executor.asking_subset _ waits)
          · exact List.mem_append_right _ begun
      | refused _ _ => exact .refl
  | moved move places => exact move.steps h.balanced.steady h.exclusive places
  | cutOff =>
      have running := Executor.running_interrupt c.dispatcher.clock (.error .cancelled)
        c.dispatcher.engine.executor
      change Standing.Steps kept _ { c.dispatcher.engine.standing with
        running := List.map _ (Executor.running (Executor.interrupt _ _ _)) }
      rw [running]
      exact .refl

theorem Entered.mono {t : Ticket (Delivery σ)} (h : c.Entered t)
    (registry : c'.dispatcher.registry = c.dispatcher.registry)
    (scheduled : c.scheduled <+: c'.scheduled) : c'.Entered t := by
  obtain ⟨place, r, hr, subscriber, lock⟩ := h
  rw [← registry] at hr
  refine ⟨?_, r, hr, subscriber, lock⟩
  obtain ⟨more, grown⟩ := scheduled
  rw [← grown, List.getElem?_append_left (List.getElem?_eq_some_iff.mp place).1, place]

/-- A delivery that is attempted is entered if it is scheduled. -/
theorem Regular.attempted {occasion : Occasion} {inRuntime : Bool}
    {registered : RegisteredHandler σ} (h : c.Regular)
    (subscribed : registered ∈ c.dispatcher.registry.lookup occasion.topic)
    (attempted : c.Attempted occasion inRuntime registered c') :
    c'.dispatcher.engine.executor.issued = c'.scheduled.length ∧
      ∀ t ∈ c'.dispatcher.engine.known, c'.Entered t := by
  cases attempted with
  | @scheduled d x next accepted =>
      have scheduled : Course.scheduled { c with
          attempts := c.attempts ++ [⟨d, c.dispatcher.clock, none⟩] } = c.scheduled ++ [d] := by
        rw [Course.scheduled, List.filter_append, List.map_append]
        rfl
      obtain ⟨queued, issued⟩ := Executor.queued_submit accepted
      constructor
      · change x.issued = (Course.scheduled { c with attempts := _ }).length
        rw [scheduled, issued, h.issued, List.length_append]
        rfl
      · intro t ht
        have new : t ∈ c.dispatcher.engine.known ∨
            t = ⟨c.dispatcher.engine.executor.issued, registered.lock, d⟩ := by
          rcases List.mem_append.mp ht with waits | begun
          · change t ∈ x.queued at waits
            rw [queued, List.mem_append, List.mem_singleton] at waits
            exact waits.imp_left fun waits => List.mem_append_left _ waits
          · exact .inl (List.mem_append_right _ begun)
        rcases new with earlier | rfl
        · refine (h.known t earlier).mono rfl ?_
          exact ⟨[d], scheduled.symm⟩
        · subst next
          refine ⟨?_, registered, subscribed, rfl, rfl⟩
          change (Course.scheduled { c with attempts := _ })[_]? = _
          rw [scheduled, h.issued]
          exact List.getElem?_concat_length
  | refused _ _ =>
      have scheduled : ∀ a : Attempt σ, a.refusal?.isNone = false →
          Course.scheduled { c with attempts := c.attempts ++ [a] } = c.scheduled := by
        intro a refused
        simp [Course.scheduled, refused]
      constructor
      · change _ = (Course.scheduled { c with attempts := _ }).length
        rw [scheduled _ rfl]
        exact h.issued
      · intro t ht
        refine (h.known t ht).mono rfl ⟨[], ?_⟩
        rw [List.append_nil]
        exact (scheduled _ rfl).symm

theorem Regular.conduct (h : c.Regular) (conduct : Conduct kept c c') : c'.Regular := by
  have balanced := h.balanced.step conduct.step
  have exclusive := h.exclusive.steps (h.steps conduct)
  have locked : c'.dispatcher.registry.Locked := by
    rw [conduct.registry]
    exact h.locked
  cases conduct with
  | attempted subscribed =>
      obtain ⟨issued, known⟩ := h.attempted subscribed (c.attempted _ _ _)
      exact ⟨balanced, locked, issued, known, exclusive⟩
  | moved move _ =>
      refine ⟨balanced, locked, move.frame.issued.trans h.issued, ?_, exclusive⟩
      intro t ht
      have before := (move.effect h.balanced.steady.numbered).known ht
      exact (h.known t before).mono rfl List.prefix_rfl
  | cutOff => exact ⟨balanced, locked, h.issued, h.known, exclusive⟩

theorem Regular.conducts (h : c.Regular) (conducts : Conducts kept c c') : c'.Regular := by
  induction conducts with
  | refl => exact h
  | tail _ conduct ih => exact ih.conduct conduct

/-- Those who start do so in turn, as long as gates are asked for in turn. -/
theorem Regular.inOrder (h : c.Regular) (order : c.dispatcher.engine.standing.InOrder)
    (conducts : Conducts (InTurn σ) c c') : c'.dispatcher.engine.standing.InOrder := by
  induction conducts with
  | refl => exact order
  | tail first conduct ih =>
      have regular := h.conducts first
      exact ih.steps regular.exclusive (regular.steps conduct)

theorem regular_of_new? {settings : DispatcherConfig} {timeout : Time.Span}
    {entries : List (Registration σ)} {world : σ} {d : Dispatcher σ}
    (made : Dispatcher.new? settings timeout entries world = some d) :
    ({ dispatcher := d } : Course σ).Regular ∧ d.engine.standing.InOrder := by
  have balanced := balanced_of_new? made
  obtain ⟨executor, new, made⟩ := Option.bind_eq_some_iff.mp made
  cases made
  obtain ⟨-, new⟩ := Option.ite_none_right_eq_some.mp new
  cases new
  refine ⟨⟨balanced, Registry.build_locked entries, rfl, ?_, List.Pairwise.nil⟩,
    List.Pairwise.nil, ?_⟩
  · intro t ht
    exact absurd ht List.not_mem_nil
  · intro t ht
    exact absurd ht List.not_mem_nil

end Course
end ProjectDesk
