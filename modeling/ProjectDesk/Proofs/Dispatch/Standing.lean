import Mathlib.Data.List.Perm.Subperm
import ProjectDesk.Proofs.Dispatch.Progress

/-!
Where everybody stands on the way to the own start: asking for the gate, ready, started. A gate goes
to the first who asks for it, and only when nobody has it; so it is in one hand at a time. As long
as those who ask keep their places, the tasks of one gate start in the order of their numbers. A few
kinds of change are enough to describe every move of an engine, and what they keep is said of them.
-/

namespace ProjectDesk

namespace Ticket

variable {τ : Type}

/-- In need of the same gate. -/
def Shares (t t' : Ticket τ) : Prop :=
  ∃ g, t.gate = some g ∧ t'.gate = some g

theorem Shares.symm {t t' : Ticket τ} (h : t.Shares t') : t'.Shares t := by
  obtain ⟨g, own, other⟩ := h
  exact ⟨g, other, own⟩

/-- Accepted first, if it is the same gate that both need. -/
def Before (t t' : Ticket τ) : Prop :=
  t.Shares t' → t.number < t'.number

end Ticket

/-- All who were accepted and have not left: those who ask for their gates or have not come to it yet,
those who have them and do not run yet, those who run, and everybody who has ever started. -/
structure Standing (τ : Type) where
  asking : List (Ticket τ)
  ready : List (Ticket τ)
  running : List (Ticket τ)
  begun : List (Ticket τ)

namespace Standing

variable {τ : Type} {s s' : Standing τ}

/-- One change. How the places of those who ask may change is left open. -/
inductive Step (kept : List (Ticket τ) → List (Ticket τ) → Prop) (s : Standing τ) :
    Standing τ → Prop
  | arrives {t : Ticket τ} (last : ∀ t' ∈ s.asking ++ s.ready ++ s.begun, t'.number < t.number) :
      Step kept s { s with asking := s.asking ++ [t] }
  | admitted {t : Ticket τ} {before after ready : List (Ticket τ)}
      (line : s.asking = before ++ t :: after) (first : ∀ t' ∈ before, ¬t'.Shares t)
      (free : ∀ t' ∈ s.ready ++ s.running, ¬t.Shares t') (ready' : ready.Perm (t :: s.ready)) :
      Step kept s { s with asking := before ++ after, ready }
  | starts {t : Ticket τ} {ready : List (Ticket τ)} (ready' : s.ready.Perm (t :: ready)) :
      Step kept s { s with ready, running := s.running ++ [t], begun := s.begun ++ [t] }
  | fewer {ready running : List (Ticket τ)} (ready' : ready.Subperm s.ready)
      (running' : running.Subperm s.running) : Step kept s { s with ready, running }
  | places {asking : List (Ticket τ)} (kept' : kept asking s.asking) :
      Step kept s { s with asking }

def Steps (kept : List (Ticket τ) → List (Ticket τ) → Prop) : Standing τ → Standing τ → Prop :=
  Relation.ReflTransGen (Step kept)

variable {kept : List (Ticket τ) → List (Ticket τ) → Prop}

/-! One hand at a time. -/

def Exclusive (s : Standing τ) : Prop :=
  (s.ready ++ s.running).Pairwise fun t t' => ¬t.Shares t'

theorem apart_perm {xs ys : List (Ticket τ)} (perm : xs.Perm ys) :
    (xs.Pairwise fun t t' => ¬t.Shares t') ↔ ys.Pairwise fun t t' => ¬t.Shares t' :=
  perm.pairwise_iff fun apart shares => apart shares.symm

theorem Exclusive.step (h : s.Exclusive) (step : Step kept s s') : s'.Exclusive := by
  unfold Exclusive at *
  cases step with
  | arrives _ | places _ => exact h
  | admitted line first free ready' =>
      rw [apart_perm (ready'.append_right _), List.cons_append, List.pairwise_cons]
      exact ⟨free, h⟩
  | @starts t ready ready' =>
      rw [apart_perm (ready'.append_right _)] at h
      refine (apart_perm ?_).mp h
      rw [← List.append_assoc]
      exact (List.perm_append_singleton t _).symm
  | fewer ready' running' =>
      obtain ⟨all, perm, within⟩ := ready'.append running'
      exact (apart_perm perm).mp (h.sublist within)

theorem Exclusive.steps (h : s.Exclusive) (steps : Steps kept s s') : s'.Exclusive := by
  induction steps with
  | refl => exact h
  | tail _ step ih => exact ih.step step

/-! First come, first served. -/

structure InOrder (s : Standing τ) : Prop where
  line : (s.begun ++ s.asking).Pairwise Ticket.Before
  ready : ∀ t ∈ s.ready, (∀ t' ∈ s.begun, t'.Before t) ∧ ∀ t' ∈ s.asking, t.Before t'

theorem InOrder.admitted {t : Ticket τ} {before after ready : List (Ticket τ)} (h : s.InOrder)
    (line : s.asking = before ++ t :: after) (first : ∀ t' ∈ before, ¬t'.Shares t)
    (ready' : ready.Perm (t :: s.ready)) :
    InOrder { s with asking := before ++ after, ready } := by
  have fewer : (before ++ after).Sublist s.asking := by
    rw [line]
    exact (List.sublist_cons_self t after).append_left before
  obtain ⟨-, asking, behind⟩ := List.pairwise_append.mp h.line
  constructor
  · exact h.line.sublist (fewer.append_left s.begun)
  · intro t' ht'
    rcases List.mem_cons.mp (ready'.subset ht') with rfl | ht'
    · have own : t' ∈ s.asking := by
        rw [line]
        exact List.mem_append_right _ (.head _)
      refine ⟨fun b hb => behind b hb t' own, ?_⟩
      intro a ha
      rcases List.mem_append.mp ha with ha | ha
      · exact fun shares => absurd shares.symm (first a ha)
      · rw [line] at asking
        exact List.rel_of_pairwise_cons (List.pairwise_append.mp asking).2.1 ha
    · exact ⟨(h.ready t' ht').1, fun a ha => (h.ready t' ht').2 a (fewer.subset ha)⟩

theorem InOrder.starts {t : Ticket τ} {ready : List (Ticket τ)} (h : s.InOrder)
    (exclusive : s.Exclusive) (ready' : s.ready.Perm (t :: ready)) :
    InOrder { s with ready, running := s.running ++ [t], begun := s.begun ++ [t] } := by
  obtain ⟨begun, asking, behind⟩ := List.pairwise_append.mp h.line
  obtain ⟨own, others⟩ := h.ready t (ready'.symm.subset (.head _))
  constructor
  · rw [List.append_assoc]
    refine List.pairwise_append.mpr ⟨begun, List.pairwise_cons.mpr ⟨others, asking⟩, ?_⟩
    intro b hb a ha
    rcases List.mem_cons.mp ha with rfl | ha
    · exact own b hb
    · exact behind b hb a ha
  · intro t' ht'
    obtain ⟨earlier, later⟩ := h.ready t' (ready'.symm.subset (.tail _ ht'))
    refine ⟨?_, later⟩
    intro b hb
    rcases List.mem_append.mp hb with hb | hb
    · exact earlier b hb
    · rw [List.mem_singleton.mp hb]
      have apart := (apart_perm ready').mp (List.pairwise_append.mp exclusive).1
      exact fun shares => absurd shares (List.rel_of_pairwise_cons apart ht')

theorem InOrder.step (h : s.InOrder) (exclusive : s.Exclusive)
    (step : Step (fun asking asking' => asking.Sublist asking') s s') : s'.InOrder := by
  cases step with
  | @arrives t last =>
      constructor
      · rw [← List.append_assoc]
        refine List.pairwise_append.mpr ⟨h.line, List.pairwise_singleton _ _, ?_⟩
        intro t' ht' new hnew _
        rw [List.mem_singleton.mp hnew]
        apply last
        rcases List.mem_append.mp ht' with begun | asking
        · exact List.mem_append_right _ begun
        · exact List.mem_append_left _ (List.mem_append_left _ asking)
      · intro t' ht'
        refine ⟨(h.ready t' ht').1, ?_⟩
        intro a ha
        rcases List.mem_append.mp ha with ha | ha
        · exact (h.ready t' ht').2 a ha
        · rw [List.mem_singleton.mp ha]
          exact fun _ => last t' (List.mem_append_left _ (List.mem_append_right _ ht'))
  | admitted line first free ready' => exact h.admitted line first ready'
  | starts ready' => exact h.starts exclusive ready'
  | fewer ready' running' => exact ⟨h.line, fun t ht => h.ready t (ready'.subset ht)⟩
  | places kept' =>
      refine ⟨h.line.sublist (kept'.append_left s.begun), ?_⟩
      intro t ht
      exact ⟨(h.ready t ht).1, fun a ha => (h.ready t ht).2 a (kept'.subset ha)⟩

theorem InOrder.steps (h : s.InOrder) (exclusive : s.Exclusive)
    (steps : Steps (fun asking asking' => asking.Sublist asking') s s') : s'.InOrder := by
  induction steps with
  | refl => exact h
  | tail first step ih => exact ih.step (exclusive.steps first) step

end Standing

/-! Where an executor has everybody. -/

namespace Executor

variable {τ ρ : Type} {x x' : Executor τ ρ} {t : Ticket τ} {r : Running τ ρ}
  {kept : List (Ticket τ) → List (Ticket τ) → Prop} {begun : List (Ticket τ)}

/-- Called for the first time. -/
def newcomers (x : Executor τ ρ) : List (Ticket τ) :=
  (x.called.filter (·.stage == .fresh)).map (·.ticket)

/-- Called because something was handed to them. -/
def handed (x : Executor τ ρ) : List (Ticket τ) :=
  (x.called.filter (·.stage != .fresh)).map (·.ticket)

/-- In the order in which gates are given: those who wait, then those who will ask. -/
def asking (x : Executor τ ρ) : List (Ticket τ) :=
  x.gateLine ++ x.newcomers

def ready (x : Executor τ ρ) : List (Ticket τ) :=
  x.slotLine ++ x.handed

def standing (begun : List (Ticket τ)) (x : Executor τ ρ) : Standing τ :=
  ⟨x.asking, x.ready, x.running.map (·.ticket), begun⟩

theorem holds_iff : x.Holds t ↔ t ∈ x.ready ++ x.running.map (·.ticket) := by
  simp only [Holds, ready, handed, List.mem_append, List.mem_map, List.mem_filter, bne_iff_ne,
    ne_eq]
  grind

theorem asking_submit {gate : Option Nat} {task : τ} {inRuntime : Bool}
    (accepted : x.submit gate task inRuntime = .ok x') :
    x'.standing begun =
      { x.standing begun with asking := x.asking ++ [⟨x.issued, gate, task⟩] } := by
  obtain ⟨-, -, rfl⟩ := submit_eq_ok accepted
  simp [standing, asking, ready, newcomers, handed, call]

theorem call_handed {stage : Stage} (something : stage ≠ .fresh) :
    (call t stage x).ready = x.ready ++ [t] ∧ (call t stage x).asking = x.asking := by
  simp [asking, ready, newcomers, handed, call, something]

/-- Whoever is called is ready already, or asks for the gate now. -/
theorem standing_of_called {stage : Stage} {rest : List (Called τ)}
    (called : x.called = ⟨t, stage⟩ :: rest) :
    if stage = .fresh then
      x.ready = ready { x with called := rest } ∧
        x.asking = x.gateLine ++ t :: newcomers { x with called := rest }
    else
      x.ready.Perm (t :: ready { x with called := rest }) ∧
        x.asking = asking { x with called := rest } := by
  split
  · rename_i new
    simp [ready, asking, newcomers, handed, called, new]
  · rename_i something
    simp only [ready, asking, newcomers, handed, called, something, List.filter_cons, bne_iff_ne,
      ne_eq, not_false_eq_true, if_true, List.map_cons, beq_iff_eq, if_false, and_true]
    exact List.perm_middle

/-- Nobody who waits for a gate needs one that is open. -/
theorem Served.not_shares (h : x.Served) {waiting : Ticket τ} (opened : x.gateOpen t = true)
    (waits : waiting ∈ x.gateLine) : ¬waiting.Shares t := by
  rintro ⟨g, needs, same⟩
  obtain ⟨g', needs', holder, holds, has⟩ := h.gate waiting waits
  cases needs.symm.trans needs'
  have taken : x.gateTaken g = true := gateTaken_iff.mpr ⟨holder, holds, has⟩
  simp [gateOpen, same, taken] at opened

theorem not_shares_of_gateOpen {holder : Ticket τ} (opened : x.gateOpen t = true)
    (holds : x.Holds holder) : ¬t.Shares holder := by
  rintro ⟨g, needs, same⟩
  have taken : x.gateTaken g = true := gateTaken_iff.mpr ⟨holder, holds, same⟩
  simp [gateOpen, needs, taken] at opened

/-- Whoever comes to the own gate does not wait at it only if it is open. -/
theorem gateOpen_of_turn? {rest : List (Called τ)} {started : Option (Ticket τ)}
    (called : x.called = ⟨t, .fresh⟩ :: rest) (turn : x.turn? = some (started, x'))
    (passed : x'.gateLine = x.gateLine) : x.gateOpen t = true := by
  have same : x.gateOpen t = gateOpen { x with called := rest } t := by
    simp [gateOpen, gateTaken, called]
  rw [same]
  simp only [turn?, called] at turn
  split at turn
  · assumption
  · cases turn
    simp at passed

variable (kept begun) in
/-- After its turn, somebody who was called waits for the gate, or is ready and goes on. -/
theorem turn?_steps {started : Option (Ticket τ)} (served : x.Served)
    (turn : x.turn? = some (started, x')) :
    ∃ ready, Standing.Steps kept (x.standing begun)
        { x.standing begun with asking := x'.asking, ready } ∧
      ready.Perm (started.toList ++ x'.ready) := by
  obtain ⟨stage, t, rest, called, moved⟩ := turn?_eq_some turn
  have stands := standing_of_called called
  by_cases new : stage = .fresh
  · subst new
    obtain ⟨ready, asking⟩ := stands
    -- Unless the gate is closed, it is given to somebody who is behind nobody who needs it.
    have admitted (passed : x'.gateLine = x.gateLine) : Standing.Steps kept (x.standing begun)
        { x.standing begun with
          asking := x.gateLine ++ newcomers { x with called := rest }
          ready := t :: x.ready } := by
      have opened := gateOpen_of_turn? called turn passed
      refine .single (.admitted asking ?_ ?_ (.refl _))
      · exact fun waiting waits => served.not_shares opened waits
      · exact fun holder holds => not_shares_of_gateOpen opened (holds_iff.mpr holds)
    cases moved with
    | starts _ => exact ⟨_, admitted rfl, by rw [ready]; exact .refl _⟩
    | waitsForSlot _ _ =>
        refine ⟨_, admitted rfl, ?_⟩
        rw [ready]
        change List.Perm _ ((x.slotLine ++ [t]) ++ handed { x with called := rest })
        rw [List.append_assoc]
        exact List.perm_middle.symm
    | waitsForGate _ =>
        refine ⟨x.ready, ?_, by rw [ready]; exact .refl _⟩
        change Standing.Steps kept _ { x.standing begun with
          asking := (x.gateLine ++ [t]) ++ newcomers { x with called := rest } }
        rw [List.append_assoc, List.singleton_append, ← asking]
        exact .refl
  · rw [if_neg new] at stands
    obtain ⟨ready, asking⟩ := stands
    cases moved with
    | starts _ =>
        refine ⟨x.ready, ?_, ready⟩
        rw [← asking]
        exact .refl
    | waitsForSlot _ _ =>
        refine ⟨x.ready, ?_, ready.trans ?_⟩
        · change Standing.Steps kept _ { x.standing begun with
            asking := Executor.asking { x with called := rest } }
          rw [← asking]
          exact .refl
        · change List.Perm _ ((x.slotLine ++ [t]) ++ handed { x with called := rest })
          rw [List.append_assoc]
          exact List.perm_middle.symm
    | waitsForGate _ => exact absurd rfl new

theorem standing_passSlot (x : Executor τ ρ) :
    x.passSlot.ready.Perm x.ready ∧ x.passSlot.asking = x.asking := by
  unfold passSlot
  split
  · exact ⟨.refl _, rfl⟩
  · rename_i first rest line
    have something : Stage.slotted ≠ .fresh := by decide
    obtain ⟨ready, asking⟩ := call_handed (t := first) (x := { x with slotLine := rest }) something
    refine ⟨?_, asking⟩
    rw [ready]
    simp only [Executor.ready, line]
    exact List.perm_append_singleton first _

/-- A gate that nobody has any more goes to the first who waits for it. -/
theorem passGate_steps {gate : Option Nat}
    (free : ∀ t ∈ x.ready ++ x.running.map (·.ticket), ∀ g, gate = some g → t.gate ≠ some g) :
    Standing.Steps kept (x.standing begun) ((x.passGate gate).standing begun) := by
  unfold passGate
  split
  · exact .refl
  · rename_i g
    split
    · exact .refl
    · rename_i t found
      have needs : t.gate = some g := by simpa [needsGate] using List.find?_some found
      obtain ⟨-, before, after, line, others⟩ := List.find?_eq_some_iff_append.mp found
      have skipped : ∀ t' ∈ before, ¬needsGate g t' = true := by
        intro t' ht'
        simpa using others t' ht'
      have left : x.gateLine.eraseP (needsGate g) = before ++ after := by
        rw [line, List.eraseP_append_right _ skipped,
          List.eraseP_cons_of_pos (List.find?_some found)]
      have something : Stage.gated ≠ .fresh := by decide
      obtain ⟨ready, asking⟩ := call_handed (t := t)
        (x := { x with gateLine := x.gateLine.eraseP (needsGate g) }) something
      have result : (call t .gated { x with gateLine := x.gateLine.eraseP (needsGate g) }).standing
          begun = { x.standing begun with
            asking := before ++ (after ++ x.newcomers)
            ready := x.ready ++ [t] } := by
        unfold standing
        rw [ready, asking, Executor.asking, left, List.append_assoc]
        rfl
      rw [result]
      refine .single (.admitted (t := t) ?_ ?_ ?_ (List.perm_append_singleton t _))
      · change x.gateLine ++ x.newcomers = _
        rw [line, List.append_assoc, List.cons_append]
      · rintro t' ht' ⟨g', needs', same⟩
        cases needs.symm.trans same
        exact skipped t' ht' (by simp [needsGate, needs'])
      · rintro t' ht' ⟨g', same, needs'⟩
        cases needs.symm.trans same
        exact free t' ht' g rfl needs'

/-- Nobody else has the gate of who ends. -/
theorem gate_ne_of_vacate (numbered : x.Numbered) (exclusive : (x.standing begun).Exclusive)
    (hr : r ∈ x.running) :
    ∀ t ∈ (x.vacate r).passSlot.ready ++ (x.vacate r).passSlot.running.map (·.ticket),
      ∀ g, r.ticket.gate = some g → t.gate ≠ some g := by
  have running := (numbered.running_finish hr).map (·.ticket)
  rw [running_finish, List.map_cons] at running
  have apart : (r.ticket :: (x.ready ++ (x.vacate r).running.map (·.ticket))).Pairwise
      fun t t' => ¬t.Shares t' := by
    refine (Standing.apart_perm ?_).mp exclusive
    exact (running.append_left x.ready).trans List.perm_middle
  rw [(passSlot_frame (x.vacate r)).2]
  intro t ht g needs same
  refine List.rel_of_pairwise_cons apart ?_ ⟨g, needs, same⟩
  exact ((standing_passSlot (x.vacate r)).1.append_right _).subset ht

/-- Who ends gives the slot back, then the gate. -/
theorem finish_steps (numbered : x.Numbered) (exclusive : (x.standing begun).Exclusive)
    (hr : r ∈ x.running) :
    Standing.Steps kept (x.standing begun) ((x.finish r).standing begun) := by
  have running := (numbered.running_finish hr).map (·.ticket)
  rw [running_finish, List.map_cons] at running
  obtain ⟨ready, asking⟩ := standing_passSlot (x.vacate r)
  have vacated : Standing.Step kept (x.standing begun) ((x.vacate r).passSlot.standing begun) := by
    unfold standing
    rw [asking, (passSlot_frame (x.vacate r)).2]
    refine .fewer ready.subperm ?_
    exact (List.sublist_cons_self _ _).subperm.trans running.symm.subperm
  exact (Relation.ReflTransGen.single vacated).trans
    (passGate_steps (gate_ne_of_vacate numbered exclusive hr))

end Executor

namespace Engine

variable {τ ρ σ : Type} {work : Work τ ρ σ} {e e' : Engine τ ρ σ}
  {kept : List (Ticket τ) → List (Ticket τ) → Prop}

def standing (e : Engine τ ρ σ) : Standing τ :=
  e.executor.standing e.begun

theorem begun_start (t : Ticket τ) (e : Engine τ ρ σ) : (e.start work t).begun = e.begun ++ [t] := by
  unfold begun start
  rw [List.filterMap_append]
  rfl

theorem begun_finish (r : Running τ ρ) (e : Engine τ ρ σ) : (e.finish work r).begun = e.begun := by
  unfold begun finish
  rw [List.filterMap_append]
  exact List.append_nil _

/-- Every move comes to a few changes of standing; only other places in a line are as they may
be. -/
theorem Move.steps (steady : e.executor.Steady) (exclusive : e.standing.Exclusive)
    (h : Move work e e') (kept' : kept e'.executor.asking e.executor.asking) :
    Standing.Steps kept e.standing e'.standing := by
  cases h with
  | @reordered called gateLine slotLine running called' gateLine' slotLine' running' =>
      refine .tail (.single (.fewer ?_ (running'.map (·.ticket)).subperm)) (.places kept')
      exact (slotLine'.append ((called'.filter _).map _)).subperm
  | waits opened turn =>
      obtain ⟨ready, steps, perm⟩ := Executor.turn?_steps kept e.begun
        (steady.served opened) turn
      obtain ⟨stage, t, rest, -, moved⟩ := Executor.turn?_eq_some turn
      refine steps.tail ?_
      unfold standing Executor.standing
      rw [moved.frame.2]
      exact .fewer perm.symm.subperm (.refl _)
  | @starts x t opened turn =>
      obtain ⟨ready, steps, perm⟩ := Executor.turn?_steps kept e.begun
        (steady.served opened) turn
      obtain ⟨stage, _, rest, -, moved⟩ := Executor.turn?_eq_some turn
      refine steps.tail ?_
      unfold standing
      rw [begun_start]
      change Standing.Step kept _ ⟨x.asking, x.ready, (x.running ++ [_]).map _, _⟩
      rw [moved.frame.2, List.map_append]
      exact .starts perm
  | ends running due =>
      unfold standing
      rw [begun_finish]
      exact Executor.finish_steps steady.numbered exclusive running
  | @leave called gateLine slotLine shut called' gateLine' slotLine' =>
      refine .tail (.single (.fewer ?_ (.refl _))) (.places kept')
      exact (slotLine'.append ((called'.filter _).map _)).subperm
  | waited later => exact .refl

end Engine

end ProjectDesk
