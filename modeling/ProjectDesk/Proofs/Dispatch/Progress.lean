import ProjectDesk.Proofs.Dispatch.Settling

/-!
Why waiting for everybody comes to an end. As long as an executor is not shut, whoever waits for a
slot waits for one that is in use, and whoever waits for a gate for one that is taken. So there is
somebody running whenever there is somebody at all and nothing more can happen at the moment.
-/

namespace ProjectDesk

namespace Executor

variable {τ ρ : Type} {x x' : Executor τ ρ} {t t' : Ticket τ} {r : Running τ ρ}

/-- In possession of its gate, if it needs one. -/
def Holds (x : Executor τ ρ) (t : Ticket τ) : Prop :=
  t ∈ x.slotLine ∨ (∃ r ∈ x.running, r.ticket = t) ∨
    ∃ c ∈ x.called, c.stage ≠ .fresh ∧ c.ticket = t

/-- Nobody waits for what could be had. -/
structure Served (x : Executor τ ρ) : Prop where
  slot : x.slotLine ≠ [] → x.slots ≤ x.slotsTaken
  gate : ∀ t ∈ x.gateLine, ∃ g, t.gate = some g ∧ ∃ t', x.Holds t' ∧ t'.gate = some g

theorem gateTaken_iff {g : Nat} : x.gateTaken g = true ↔ ∃ t, x.Holds t ∧ t.gate = some g := by
  simp only [gateTaken, needsGate, Holds, Bool.or_eq_true, List.any_eq_true, beq_iff_eq,
    Bool.and_eq_true, bne_iff_ne, ne_eq]
  constructor
  · rintro ((⟨t, ht, gate⟩ | ⟨r, hr, gate⟩) | ⟨c, hc, stage, gate⟩)
    · exact ⟨t, .inl ht, gate⟩
    · exact ⟨r.ticket, .inr (.inl ⟨r, hr, rfl⟩), gate⟩
    · exact ⟨c.ticket, .inr (.inr ⟨c, hc, stage, rfl⟩), gate⟩
  · rintro ⟨t, ht | ⟨r, hr, rfl⟩ | ⟨c, hc, stage, rfl⟩, gate⟩
    · exact .inl (.inl ⟨t, ht, gate⟩)
    · exact .inl (.inr ⟨r, hr, gate⟩)
    · exact .inr ⟨c, hc, stage, gate⟩

theorem of_gateOpen_eq_false (closed : x.gateOpen t = false) :
    ∃ g, t.gate = some g ∧ ∃ t', x.Holds t' ∧ t'.gate = some g := by
  unfold gateOpen at closed
  split at closed
  · cases closed
  · rename_i g needs
    exact ⟨g, needs, gateTaken_iff.mp (by simpa using closed)⟩

/-- Who waits still waits for something that is taken, if no gate was given back. -/
theorem Served.gate_of_holds (h : x.Served) (holds : ∀ t, x.Holds t → x'.Holds t)
    (ht : t ∈ x.gateLine) : ∃ g, t.gate = some g ∧ ∃ t', x'.Holds t' ∧ t'.gate = some g := by
  obtain ⟨g, needs, t', held, taken⟩ := h.gate t ht
  exact ⟨g, needs, t', holds t' held, taken⟩

theorem Served.submit {gate : Option Nat} {task : τ} {inRuntime : Bool} (h : x.Served)
    (accepted : x.submit gate task inRuntime = .ok x') : x'.Served := by
  obtain ⟨-, -, rfl⟩ := submit_eq_ok accepted
  constructor
  · intro waiting
    have full := h.slot waiting
    simpa [slotsTaken, call] using full
  · intro t ht
    refine h.gate_of_holds ?_ ht
    rintro t (held | held | ⟨c, hc, stage⟩)
    · exact .inl held
    · exact .inr (.inl held)
    · exact .inr (.inr ⟨c, List.mem_append_left _ hc, stage⟩)

/-- Other orders of the same. -/
theorem Served.reordered (h : x.Served) {called : List (Called τ)}
    {gateLine slotLine : List (Ticket τ)} {running : List (Running τ ρ)}
    (called' : called.Perm x.called) (gateLine' : gateLine.Perm x.gateLine)
    (slotLine' : slotLine.Perm x.slotLine) (running' : running.Perm x.running) :
    Served { x with called, gateLine, slotLine, running } := by
  constructor
  · intro waiting
    have full := h.slot fun none => waiting (by rw [none] at slotLine'; exact slotLine'.eq_nil)
    simp only [slotsTaken] at full ⊢
    rw [running'.length_eq, called'.countP_eq]
    exact full
  · intro t ht
    refine h.gate_of_holds ?_ (gateLine'.subset ht)
    rintro t (held | ⟨r, hr, same⟩ | ⟨c, hc, stage⟩)
    · exact .inl (slotLine'.symm.subset held)
    · exact .inr (.inl ⟨r, running'.symm.subset hr, same⟩)
    · exact .inr (.inr ⟨c, called'.symm.subset hc, stage⟩)

/-- Whoever is called and has a gate keeps it where it goes. -/
theorem holds_of_called {stage : Stage} {rest : List (Called τ)}
    (called : x.called = ⟨t, stage⟩ :: rest) (held : x.Holds t') :
    Holds { x with called := rest } t' ∨ (stage ≠ .fresh ∧ t' = t) := by
  rcases held with held | held | ⟨c, hc, stage, rfl⟩
  · exact .inl (.inl held)
  · exact .inl (.inr (.inl held))
  · rw [called] at hc
    rcases List.mem_cons.mp hc with rfl | hc
    · exact .inr ⟨stage, rfl⟩
    · exact .inl (.inr (.inr ⟨c, hc, stage, rfl⟩))

theorem slotsTaken_of_called {stage : Stage} {rest : List (Called τ)}
    (called : x.called = ⟨t, stage⟩ :: rest) :
    x.slotsTaken = slotsTaken { x with called := rest } + if stage = .slotted then 1 else 0 := by
  simp only [slotsTaken, called, List.countP_cons, beq_iff_eq]
  omega

theorem Served.started {stage : Stage} {rest : List (Called τ)} (h : x.Served)
    (called : x.called = ⟨t, stage⟩ :: rest) (r : Running τ ρ) (ticket : r.ticket = t) :
    (Executor.start r { x with called := rest }).Served := by
  constructor
  · intro waiting
    have full := h.slot waiting
    rw [slotsTaken_of_called called] at full
    simp only [start, slotsTaken, List.length_append, List.length_singleton] at full ⊢
    split at full <;> omega
  · intro t' ht'
    refine h.gate_of_holds ?_ ht'
    intro t' held
    rcases holds_of_called called held with (held | ⟨r', hr', same⟩ | held) | ⟨-, rfl⟩
    · exact .inl held
    · exact .inr (.inl ⟨r', List.mem_append_left _ hr', same⟩)
    · exact .inr (.inr held)
    · exact .inr (.inl ⟨r, List.mem_append_right _ (List.mem_singleton_self r), ticket⟩)

theorem Served.waits {stage : Stage} {rest : List (Called τ)} (h : x.Served)
    (called : x.called = ⟨t, stage⟩ :: rest)
    (moved : Moved { x with called := rest } stage t none x') : x'.Served := by
  cases moved with
  | waitsForSlot without full =>
      refine ⟨fun _ => full, ?_⟩
      intro t' ht'
      refine h.gate_of_holds ?_ ht'
      intro t' held
      rcases holds_of_called called held with (held | held | held) | ⟨-, rfl⟩
      · exact .inl (List.mem_append_left _ held)
      · exact .inr (.inl held)
      · exact .inr (.inr held)
      · exact .inl (List.mem_append_right _ (List.mem_singleton_self _))
  | waitsForGate closed =>
      constructor
      · intro waiting
        have full := h.slot waiting
        rw [slotsTaken_of_called called] at full
        exact full
      · intro t' ht'
        rcases List.mem_append.mp ht' with ht' | ht'
        · refine h.gate_of_holds ?_ ht'
          intro t' held
          rcases holds_of_called called held with held | ⟨without, -⟩
          · exact held
          · exact absurd rfl without
        · rw [List.mem_singleton.mp ht']
          exact of_gateOpen_eq_false closed

theorem holds_passSlot (held : x.Holds t) : x.passSlot.Holds t := by
  unfold passSlot
  split
  · exact held
  · rename_i first rest line
    rcases held with held | held | ⟨c, hc, stage⟩
    · rw [line] at held
      rcases List.mem_cons.mp held with rfl | held
      · exact .inr (.inr ⟨⟨t, .slotted⟩, List.mem_append_right _ (.head _), nofun, rfl⟩)
      · exact .inl held
    · exact .inr (.inl held)
    · exact .inr (.inr ⟨c, List.mem_append_left _ hc, stage⟩)

theorem holds_passGate {gate : Option Nat} (held : x.Holds t) : (x.passGate gate).Holds t := by
  unfold passGate
  split
  · exact held
  · split
    · exact held
    · rcases held with held | held | ⟨c, hc, stage⟩
      · exact .inl held
      · exact .inr (.inl held)
      · exact .inr (.inr ⟨c, List.mem_append_left _ hc, stage⟩)

/-- A gate that somebody waits for is taken again at once. -/
theorem passGate_taken {g : Nat} (ht : t ∈ x.gateLine) (needs : t.gate = some g) :
    ∃ t', (x.passGate (some g)).Holds t' ∧ t'.gate = some g := by
  unfold passGate
  dsimp only
  split
  · rename_i nobody
    have missed := List.find?_eq_none.mp nobody t ht
    simp [needsGate, needs] at missed
  · rename_i next found
    refine ⟨next, .inr (.inr ⟨⟨next, .gated⟩, List.mem_append_right _ (.head _), nofun, rfl⟩), ?_⟩
    simpa [needsGate] using List.find?_some found

theorem holds_finish (numbered : x.Numbered) (hr : r ∈ x.running) (held : x.Holds t) :
    (x.finish r).Holds t ∨ t = r.ticket := by
  by_cases own : t = r.ticket
  · exact .inr own
  · refine .inl (holds_passGate (holds_passSlot ?_))
    rcases held with held | ⟨r', hr', rfl⟩ | held
    · exact .inl held
    · refine .inr (.inl ⟨r', ?_, rfl⟩)
      have left := numbered.running_finish hr
      rw [running_finish] at left
      rcases List.mem_cons.mp (left.subset hr') with rfl | stays
      · exact absurd rfl own
      · exact stays
    · exact .inr (.inr held)

theorem gateLine_passSlot (x : Executor τ ρ) : x.passSlot.gateLine = x.gateLine := by
  unfold passSlot
  split <;> rfl

theorem gateLine_passGate_subset (gate : Option Nat) (x : Executor τ ρ) :
    (x.passGate gate).gateLine ⊆ x.gateLine := by
  unfold passGate
  split
  · exact fun _ => id
  · split
    · exact fun _ => id
    · exact List.eraseP_subset

theorem gateLine_finish_subset (r : Running τ ρ) (x : Executor τ ρ) :
    (x.finish r).gateLine ⊆ x.gateLine := by
  intro t ht
  have line := gateLine_passGate_subset _ _ ht
  rwa [gateLine_passSlot] at line

theorem slotLine_passGate (gate : Option Nat) (x : Executor τ ρ) :
    (x.passGate gate).slotLine = x.slotLine ∧ (x.passGate gate).slotsTaken = x.slotsTaken := by
  unfold passGate
  split
  · exact ⟨rfl, rfl⟩
  · split
    · exact ⟨rfl, rfl⟩
    · refine ⟨rfl, ?_⟩
      simp [slotsTaken, call]

theorem slotsTaken_passSlot (waiting : x.slotLine ≠ []) :
    x.passSlot.slotsTaken = x.slotsTaken + 1 := by
  unfold passSlot
  split
  · contradiction
  · simp [slotsTaken, call]
    omega

theorem slotLine_of_passSlot (waiting : x.passSlot.slotLine ≠ []) : x.slotLine ≠ [] := by
  intro none
  apply waiting
  unfold passSlot
  rw [none]
  exact none

theorem Served.finish (h : x.Served) (numbered : x.Numbered) (hr : r ∈ x.running) :
    (x.finish r).Served := by
  constructor
  · intro waiting
    obtain ⟨line, taken⟩ := slotLine_passGate r.ticket.gate (x.vacate r).passSlot
    rw [(finish_frame r x).slots]
    rw [finish_eq] at waiting ⊢
    rw [line] at waiting
    have before := slotLine_of_passSlot waiting
    rw [taken, slotsTaken_passSlot before]
    have full := h.slot before
    have left := (numbered.running_finish hr).length_eq
    rw [running_finish, List.length_cons] at left
    simp only [slotsTaken, vacate] at full left ⊢
    omega
  · intro t ht
    obtain ⟨g, needs, t', held, taken⟩ := h.gate t (gateLine_finish_subset r x ht)
    rcases holds_finish numbered hr held with held | rfl
    · exact ⟨g, needs, t', held, taken⟩
    · refine ⟨g, needs, ?_⟩
      have line : t ∈ (x.vacate r).passSlot.gateLine := by
        rw [gateLine_passSlot]
        exact gateLine_finish_subset r x ht
      rw [finish_eq, taken]
      exact passGate_taken line needs

/-- What every executor keeps that was made with at least one slot. -/
structure Steady (x : Executor τ ρ) : Prop where
  numbered : x.Numbered
  slots : 0 < x.slots
  served : x.shut = false → x.Served

theorem steady_of_new? {maxConcurrency : Nat} (h : new? maxConcurrency = some x) : x.Steady := by
  obtain ⟨-, made⟩ := Option.ite_none_right_eq_some.mp h
  cases made
  refine ⟨⟨List.nodup_nil, nofun⟩, ?_, fun _ => ⟨nofun, nofun⟩⟩
  exact Nat.le_max_right maxConcurrency 1

theorem Steady.submit {gate : Option Nat} {task : τ} {inRuntime : Bool} (h : x.Steady)
    (accepted : x.submit gate task inRuntime = .ok x') : x'.Steady := by
  have opened := (submit_eq_ok accepted).1
  refine ⟨h.numbered.submit accepted, ?_, fun _ => (h.served opened).submit accepted⟩
  obtain ⟨-, -, rfl⟩ := submit_eq_ok accepted
  exact h.slots

theorem tickets_interrupt (now : Nat) (result : ρ) (x : Executor τ ρ) :
    (x.shutDown.interrupt now result).tickets = x.tickets := by
  simp [tickets, shutDown, interrupt, queued, Function.comp_def]

theorem running_interrupt (now : Nat) (result : ρ) (x : Executor τ ρ) :
    (x.shutDown.interrupt now result).running.map (·.ticket) = x.running.map (·.ticket) := by
  simp [shutDown, interrupt, Function.comp_def]

theorem Steady.cutOff (h : x.Steady) (now : Nat) (result : ρ) :
    (x.shutDown.interrupt now result).Steady := by
  refine ⟨⟨?_, ?_⟩, h.slots, nofun⟩
  · rw [tickets_interrupt]
    exact h.numbered.distinct
  · rw [tickets_interrupt]
    exact h.numbered.issued

end Executor

namespace Engine

variable {τ ρ σ : Type} {work : Work τ ρ σ} {e e' : Engine τ ρ σ}

theorem Move.steady (steady : e.executor.Steady) (h : Move work e e') : e'.executor.Steady := by
  have frame := h.frame
  refine ⟨h.numbered steady.numbered, ?_, ?_⟩
  · rw [frame.slots]
    exact steady.slots
  · intro opened
    rw [frame.shut] at opened
    have served := steady.served opened
    cases h with
    | reordered called' gateLine' slotLine' running' =>
        exact served.reordered called' gateLine' slotLine' running'
    | waits _ turn =>
        obtain ⟨stage, t, rest, called, moved⟩ := Executor.turn?_eq_some turn
        exact served.waits called moved
    | starts _ turn =>
        obtain ⟨stage, t, rest, called, moved⟩ := Executor.turn?_eq_some turn
        cases moved
        exact served.started called _ rfl
    | ends running _ => exact served.finish steady.numbered running
    | leave shut _ _ _ =>
        rw [opened] at shut
        cases shut
    | waited _ => exact served

theorem Moves.steady (steady : e.executor.Steady) (h : Moves work e e') : e'.executor.Steady := by
  induction h with
  | refl => exact steady
  | tail _ move ih => exact move.steady ih

theorem Moves.inFlight_le (steady : e.executor.Steady) (h : Moves work e e') :
    e'.executor.inFlight ≤ e.executor.inFlight := by
  induction h with
  | refl => exact Nat.le_refl _
  | tail moves move ih =>
      obtain ⟨ended, gone, -, tickets, -⟩ :=
        (move.effect (Moves.steady steady moves).numbered).parted
      have fewer := tickets.length_eq
      rw [List.length_append, Executor.length_tickets, Executor.length_tickets] at fewer
      omega

/-- Whoever waits once nothing more can happen waits for somebody who is running. -/
theorem inFlight_eq_zero (steady : e.executor.Steady) (settled : e.step? work = none)
    (nobody : e.executor.running = []) : e.executor.inFlight = 0 := by
  obtain ⟨left, -, called⟩ := step?_eq_none settled
  have queued : e.executor.queued = [] := by
    cases shut : e.executor.shut with
    | true => exact left shut
    | false =>
        have served := steady.served shut
        have slotLine : e.executor.slotLine = [] := by
          cases line : e.executor.slotLine with
          | nil => rfl
          | cons t rest =>
              have full := served.slot (by simp [line])
              have some := steady.slots
              simp [Executor.slotsTaken, nobody, called] at full
              omega
        have gateLine : e.executor.gateLine = [] := by
          cases line : e.executor.gateLine with
          | nil => rfl
          | cons t rest =>
              obtain ⟨g, -, t', held, -⟩ := served.gate t (by simp [line])
              simp [Executor.Holds, slotLine, nobody, called] at held
        simp [Executor.queued, slotLine, gateLine, called]
  simp [Executor.inFlight, queued, nobody]

/-- Somebody ends where somebody is due. -/
theorem inFlight_settle_lt (steady : e.executor.Steady)
    (left : e.executor.shut = true → e.executor.queued = []) {r : Running τ ρ}
    (running : r ∈ e.executor.running) (due : r.due ≤ e.clock) :
    (e.settle work).executor.inFlight < e.executor.inFlight := by
  have stays : (e.executor.shut && !e.executor.queued.isEmpty) = false := by
    cases shut : e.executor.shut with
    | false => rfl
    | true => simp [left shut]
  obtain ⟨first, found⟩ : ∃ first, e.executor.due? e.clock = some first := by
    cases found : e.executor.due? e.clock with
    | some first => exact ⟨first, rfl⟩
    | none => simpa [due] using List.find?_eq_none.mp found r running
  have step : e.step? work = some (e.finish work first) := by
    simp [step?, stays, found]
  have member : first ∈ e.executor.running := List.mem_of_find?_eq_some found
  have ended := (steady.numbered.running_finish member).length_eq
  have queued := (Executor.queued_finish first e.executor).length_eq
  have next : (e.finish work first).executor.Steady :=
    Move.steady steady (.ends member (by simpa using List.find?_some found) : Move work e _)
  obtain ⟨moves, enough⟩ : ∃ moves, e.executor.load = moves + 1 :=
    Nat.exists_eq_add_one.mpr (Nat.zero_lt_of_lt (load_step? step))
  have settled : e.settle work = (e.finish work first).steps work moves := by
    unfold settle
    rw [enough, steps, step]
  have later : (e.settle work).executor.inFlight ≤ (e.finish work first).executor.inFlight := by
    rw [settled]
    exact Moves.inFlight_le next (moves_steps moves _)
  rw [List.length_cons] at ended
  simp only [finish, Executor.inFlight] at later ⊢
  omega

theorem running_of_nextDue? (h : e.executor.nextDue? = none) : e.executor.running = [] :=
  List.map_eq_nil_iff.mp (List.min?_eq_none_iff.mp h)

theorem nextDue?_le {time : Nat} {r : Running τ ρ} (h : e.executor.nextDue? = some time)
    (hr : r ∈ e.executor.running) : time ≤ r.due :=
  (List.min?_eq_some_iff.mp h).2 _ (List.mem_map_of_mem hr)

/-- Where the limit does not allow the next end, it does not allow a later one. -/
theorem within_of_nextDue? {limit : Option Nat} {time : Nat} {r : Running τ ρ}
    (h : e.executor.nextDue? = some time) (beyond : within limit time = false)
    (hr : r ∈ e.executor.running) : within limit r.due = false := by
  have least := nextDue?_le h hr
  cases limit with
  | none => cases beyond
  | some last =>
      simp only [within, decide_eq_false_iff_not, Nat.not_le] at beyond ⊢
      exact Nat.lt_of_lt_of_le beyond least

theorem settled_runFor {limit : Option Nat} {fuel : Nat} (steady : e.executor.Steady)
    (enough : (e.settle work).executor.inFlight ≤ fuel) :
    (e.runFor work limit (fuel + 1)).step? work = none ∧
      ∀ r ∈ (e.runFor work limit (fuel + 1)).executor.running, within limit r.due = false := by
  induction fuel generalizing e with
  | zero =>
      have nobody : (e.settle work).executor.running = [] :=
        List.length_eq_zero_iff.mp (Nat.add_eq_zero_iff.mp (Nat.eq_zero_of_le_zero enough)).2
      have none : (e.settle work).executor.nextDue? = none := by
        rw [Executor.nextDue?, nobody]
        rfl
      simp only [runFor, none, nobody]
      exact ⟨step?_settle e, nofun⟩
  | succ fuel ih =>
      have next : (e.settle work).executor.Steady := Moves.steady steady (moves_steps _ e)
      have settled : (e.settle work).step? work = none := step?_settle e
      unfold runFor
      dsimp only
      split
      · rename_i nobody
        rw [running_of_nextDue? nobody]
        exact ⟨settled, nofun⟩
      · rename_i time due
        split
        · obtain ⟨-, r, running, rfl⟩ := nextDue?_settle due
          -- Every round ends somebody, so that there are rounds enough.
          have fewer : (settle work { e.settle work with clock := r.due }).executor.inFlight <
              (e.settle work).executor.inFlight :=
            inFlight_settle_lt next (step?_eq_none settled).1 running (Nat.le_refl _)
          exact ih next (Nat.le_of_lt_succ (Nat.lt_of_lt_of_le fewer enough))
        · rename_i beyond
          exact ⟨settled, fun r hr => within_of_nextDue? due (Bool.not_eq_true _ ▸ beyond) hr⟩

variable (work) in
/-- Nobody is left who could end as long as the limit allows. -/
theorem settled_runUntil (limit : Option Nat) (steady : e.executor.Steady) :
    (e.runUntil work limit).step? work = none ∧
      ∀ r ∈ (e.runUntil work limit).executor.running, within limit r.due = false :=
  settled_runFor steady (Moves.inFlight_le steady (moves_steps _ e))

/-- Waiting for everybody leaves nobody behind. -/
theorem inFlight_drain (steady : e.executor.Steady) : (e.drain work).executor.inFlight = 0 := by
  obtain ⟨settled, beyond⟩ := settled_runUntil work none steady
  refine inFlight_eq_zero ?_ settled (List.eq_nil_iff_forall_not_mem.mpr fun r hr => ?_)
  · exact Moves.steady steady (Relation.ReflTransGen.mono (fun _ _ => Goes.move) _ _
      (goes_runFor none _ e))
  · cases beyond r hr

end Engine
end ProjectDesk
