import ProjectDesk.Proofs.Workflow.LastWord
import ProjectDesk.Rehearsal.Actor
import ProjectDesk.Rehearsal.Desk

/-!
What comes of orders does not depend on the handlers. Two desks that are alike but for their
dispatchers stay alike, and their answers differ in nothing but the numbers of deliveries that are
scheduled, on which no order goes on in another way; so whole sittings at them come to the same,
whatever becomes of either dispatcher between any two questions.
-/

namespace ProjectDesk.Rehearsal

open Workflow

variable {σ τ : Type}

/-- All of a desk but its dispatcher. -/
structure Front where
  database : Database
  now : Time.Instant
  scene : Scene
  onProvision : Option Interference
  onQuota : Option Interference

namespace Desk

def front (d : Desk σ) : Front :=
  ⟨d.database, d.now, d.scene, d.onProvision, d.onQuota⟩

def withFront (front : Front) (d : Desk σ) : Desk σ :=
  ⟨front.database, front.now, front.scene, front.onProvision, front.onQuota, d.dispatcher⟩

def withDispatcher (dispatcher : Dispatcher σ) (d : Desk σ) : Desk σ :=
  { d with dispatcher }

@[simp] theorem front_withFront (front : Front) (d : Desk σ) : (d.withFront front).front = front :=
  rfl

theorem respond_alike {d : Desk σ} {d' : Desk τ} (same : d.front = d'.front) (q : Ask) :
    (¬ q.Announces → (d.respond q).1 = (d'.respond q).1) ∧
      (d.respond q).2.front = (d'.respond q).2.front := by
  obtain ⟨database, now, scene, onProvision, onQuota, dispatcher⟩ := d
  obtain ⟨_, _, _, _, _, dispatcher'⟩ := d'
  cases same
  cases q with
  | statement _ | settings => exact ⟨fun _ => rfl, rfl⟩
  | announce _ _ => exact ⟨fun quiet => absurd trivial quiet, rfl⟩
  | call c =>
      refine ⟨fun _ => rfl, ?_⟩
      simp only [respond]
      split
      · cases c with
        | createProject _ _ => cases onProvision <;> rfl
        | createQuota _ _ => cases onQuota <;> rfl
        | _ => rfl
      · rfl

end Desk

/-- A desk at which any number of operations are under way. -/
structure Sitting (σ : Type) where
  desk : Desk σ
  undertakings : List Undertaking := []

/-- What is seen to happen: an order comes in, one of those under way has its question answered, or
the surroundings and the store change on their own. -/
inductive Happening where
  | order (o : Order)
  | answer (asker : Nat)
  | arrange (change : Front → Front)

namespace Sitting

variable {s t : Sitting σ} {s' t' : Sitting τ} {acts : List Happening}

def shown (s : Sitting σ) : Front × List Undertaking :=
  (s.desk.front, s.undertakings)

def happen? : Happening → Sitting σ → Option (Sitting σ)
  | .order o, s => some { s with undertakings := s.undertakings ++ [⟨o, o.operation.run⟩] }
  | .arrange change, s => some { s with desk := s.desk.withFront (change s.desk.front) }
  | .answer asker, s =>
      match s.undertakings[asker]? with
      | some ⟨o, .ask q next⟩ =>
          let (answer, desk) := s.desk.respond q
          some ⟨desk, s.undertakings.set asker ⟨o, next answer⟩⟩
      | _ => none

def play? : List Happening → Sitting σ → Option (Sitting σ)
  | [], s => some s
  | act :: rest, s => (s.happen? act).bind (play? rest)

/-- At any moment the dispatcher may have become another, unseen: handlers start and end, well or
not, more is published, it is drained or shut down. -/
inductive Runs : List Happening → Sitting σ → Sitting σ → Prop
  | refl (s : Sitting σ) : Runs [] s s
  | unseen (d : Dispatcher σ) {s t : Sitting σ} {acts : List Happening}
      (h : Runs acts { s with desk := s.desk.withDispatcher d } t) : Runs acts s t
  | seen {act : Happening} {s next t : Sitting σ} {acts : List Happening}
      (first : s.happen? act = some next) (others : Runs acts next t) : Runs (act :: acts) s t

/-- Everything that is under way is what is left of its order. -/
def Ordered (s : Sitting σ) : Prop :=
  ∀ u ∈ s.undertakings, ∃ t, Program.Leads u.order.operation.run t u.rest

theorem Ordered.happen (h : s.Ordered) {act : Happening} (next : s.happen? act = some t) :
    t.Ordered := by
  cases act with
  | arrange change =>
      cases next
      exact h
  | order o =>
      cases next
      intro u hu
      rcases List.mem_append.mp hu with earlier | new
      · exact h u earlier
      · rw [List.mem_singleton.mp new]
        exact ⟨[], .here _⟩
  | answer asker =>
      unfold happen? at next
      dsimp only at next
      split at next
      · rename_i o q rest found
        cases next
        intro u hu
        rcases List.mem_or_eq_of_mem_set hu with earlier | rfl
        · exact h u earlier
        · obtain ⟨asked, leads⟩ := h _ (List.mem_of_getElem? found)
          exact ⟨_, leads.ask _⟩
      · cases next

theorem happen?_alike (ordered : s.Ordered) (same : s.shown = s'.shown) {act : Happening}
    (h : s.happen? act = some t) : ∃ t', s'.happen? act = some t' ∧ t'.shown = t.shown := by
  obtain ⟨desk, undertakings⟩ := s
  obtain ⟨desk', undertakings'⟩ := s'
  obtain ⟨fronts, rfl⟩ := Prod.mk.inj same
  change desk.front = desk'.front at fronts
  cases act with
  | order o =>
      cases h
      exact ⟨_, rfl, by simp [shown, fronts]⟩
  | arrange change =>
      cases h
      exact ⟨_, rfl, by simp [shown, fronts]⟩
  | answer asker =>
      unfold happen? at h ⊢
      dsimp only at h ⊢
      split at h
      · rename_i o q next found
        obtain ⟨asked, leads⟩ := ordered _ (List.mem_of_getElem? found)
        obtain ⟨answers, fronts⟩ := Desk.respond_alike fronts q
        have goesOn := (o.endsWith.rest leads).next_eq answers
        cases h
        exact ⟨_, rfl, by simp [shown, goesOn, fronts]⟩
      · cases h

theorem Runs.replayed (runs : s.Runs acts t) (ordered : s.Ordered) (same : s.shown = s'.shown) :
    ∃ t', s'.play? acts = some t' ∧ t'.shown = t.shown := by
  induction runs generalizing s' with
  | refl s => exact ⟨s', rfl, same.symm⟩
  | unseen d _ ih => exact ih ordered same
  | seen first _ ih =>
      obtain ⟨next', first', same'⟩ := happen?_alike ordered same first
      obtain ⟨t', others', last⟩ := ih (ordered.happen first) same'.symm
      exact ⟨t', by rw [play?, first', Option.bind_some, others'], last⟩

theorem runs_of_play? (h : s.play? acts = some t) : s.Runs acts t := by
  induction acts generalizing s with
  | nil =>
      cases h
      exact .refl _
  | cons act rest ih =>
      obtain ⟨next, first, others⟩ := Option.bind_eq_some_iff.mp h
      exact .seen first (ih others)

theorem Runs.trans {u : Sitting σ} {more : List Happening} (first : s.Runs acts t)
    (rest : t.Runs more u) : s.Runs (acts ++ more) u := by
  induction first with
  | refl s => exact rest
  | unseen d _ ih => exact .unseen d (ih rest)
  | seen first _ ih => exact .seen first (ih rest)

theorem play?_run (o : Order) (rest : Program Ask.interface (Except RequestError o.Result))
    (desk : Desk σ) (before : List Undertaking) :
    ∃ n, play? (.replicate n (.answer before.length)) ⟨desk, before ++ [⟨o, rest⟩]⟩ =
      some ⟨(rest.run Desk.respond desk).2,
        before ++ [⟨o, .done (rest.run Desk.respond desk).1⟩]⟩ := by
  induction rest generalizing desk with
  | done result => exact ⟨0, rfl⟩
  | ask q next ih =>
      obtain ⟨n, played⟩ := ih (desk.respond q).1 (desk.respond q).2
      refine ⟨n + 1, ?_⟩
      simp [List.replicate_succ, play?, happen?, played, Program.run]

theorem runs_operate (o : Order) (s : Sitting σ) :
    ∃ n, s.Runs (.order o :: .replicate n (.answer s.undertakings.length))
      ⟨(s.desk.operate o.operation).2,
        s.undertakings ++ [⟨o, .done (s.desk.operate o.operation).1⟩]⟩ := by
  obtain ⟨n, played⟩ := play?_run o o.operation.run s.desk s.undertakings
  exact ⟨n, .seen rfl (runs_of_play? played)⟩

/-- Operations may take turns, and one more that is carried out at once belongs to a run as well. -/
theorem unaffected_by_handlers (ordered : s.Ordered) (same : s.shown = s'.shown)
    (runs : s.Runs acts t) :
    (∃ t', s'.Runs acts t') ∧
    (∀ t', s'.Runs acts t' → t'.undertakings = t.undertakings ∧
      t'.desk.scene.calls = t.desk.scene.calls ∧ t'.desk.database = t.desk.database) ∧
    ∀ o : Order, ∃ n,
      s.Runs (acts ++ .order o :: .replicate n (.answer t.undertakings.length))
        ⟨(t.desk.operate o.operation).2,
          t.undertakings ++ [⟨o, .done (t.desk.operate o.operation).1⟩]⟩ := by
  have ordered' : s'.Ordered := by
    rw [Ordered, ← (Prod.mk.inj same).2]
    exact ordered
  obtain ⟨u, played, shown⟩ := runs.replayed ordered same
  refine ⟨⟨u, runs_of_play? played⟩, fun t' runs' => ?_, fun o => ?_⟩
  · obtain ⟨u', played', shown'⟩ := runs'.replayed ordered' (rfl : s'.shown = s'.shown)
    cases played.symm.trans played'
    obtain ⟨front, undertakings⟩ := Prod.mk.inj (shown'.symm.trans shown)
    exact ⟨undertakings, congrArg (·.scene.calls) front, congrArg (·.database) front⟩
  · obtain ⟨n, further⟩ := runs_operate o t
    exact ⟨n, runs.trans further⟩

/-- A handler that never ends holds up approving as little as a dispatcher that was shut down, where
an announcement has deliveries scheduled for one handler here and for none there. -/
theorem unaffected_by_handlers_stuck : ∃ (s t : Sitting Unit) (s' : Sitting Turns)
    (acts : List Happening) (a : Announcement), s.Runs acts t ∧
      (s.desk.respond (.announce "root" a)).1 = 1 ∧
      (s'.desk.respond (.announce "root" a)).1 = 0 ∧ (∃ t', s'.Runs acts t') ∧
      ∀ t', s'.Runs acts t' →
        (t'.desk.database.store.findAny 1).map (·.status) = some .approved := by
  let now : Time.Instant := ⟨⟨2026, 6, 1⟩, 12, 0, 0, 0⟩
  let row : Request := ⟨1, 1, "ann", "alpha", .notDetermined, false, .instant now, .instant now⟩
  let stuck : HandlerInstance Unit := ⟨0, "auditor", true, fun _ world => (⟨none, .ok ()⟩, world)⟩
  let entry : Registration Turns :=
    ⟨Topic.approveRequest, 0, "auditor", true, fun _ world => (⟨none, .ok ()⟩, world)⟩
  obtain ⟨waiting, made⟩ : ∃ d, Dispatcher.new? {} (.ofSeconds 60)
      [⟨Topic.approveRequest, stuck⟩] () = some d := ⟨_, rfl⟩
  obtain ⟨idle, made'⟩ : ∃ d : Dispatcher Turns,
      Dispatcher.new? {} (.ofSeconds 60) [entry] [] = some d := ⟨_, rfl⟩
  let held : Sitting Unit := ⟨⟨{}, now, {}, none, none, waiting⟩, []⟩
  let shut : Sitting Turns := ⟨⟨{}, now, {}, none, none, idle.shutDown⟩, []⟩
  let acts : List Happening := [.order (.create ⟨1, "ann", "alpha"⟩), .answer 0,
    .order (.approve "root" row), .answer 1, .answer 1, .answer 1, .answer 1, .answer 1]
  have played : (held.play? acts).map (fun t =>
      (t.desk.database.store.findAny 1).map (·.status)) = some (some .approved) := by
    cases made
    decide +kernel
  obtain ⟨t, plays, approved⟩ := Option.map_eq_some_iff.mp played
  have runs : held.Runs acts t := runs_of_play? plays
  have same : held.shown = shut.shown := rfl
  have fresh : held.Ordered := fun _ nobody => absurd nobody List.not_mem_nil
  obtain ⟨exists', all, -⟩ := unaffected_by_handlers fresh same runs
  refine ⟨held, t, shut, acts, .approved (.ofRequest row "root"), runs, ?_, ?_, exists', ?_⟩
  · cases made
    rfl
  · cases made'
    rfl
  · intro t' runs'
    rw [(all t' runs').2.2, approved]

end Sitting

end ProjectDesk.Rehearsal
