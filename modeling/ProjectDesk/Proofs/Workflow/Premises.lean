import ProjectDesk.Proofs.Dispatch.DeliveryLedger
import ProjectDesk.Proofs.Dispatch.Unbroken
import ProjectDesk.Proofs.Workflow.Winner

/-!
Operations and dispatcher together. What an operation announces is published in the same turn, and
deliveries go on between any two turns, in any order and for any time. The dispatcher is not shut
down, so that every delivery that is due is scheduled.
-/

namespace ProjectDesk

open Workflow

variable {σ : Type}

namespace Course

variable {c : Course σ}

/-- Publishes what was announced in a turn. -/
def hear (t : Turn) (c : Course σ) : Course σ :=
  match t.published? with
  | some o => c.attemptAll o true (c.dispatcher.registry.lookup o.topic)
  | none => c

/-- This is what the dispatcher does with an announcement. -/
theorem dispatcher_hear (t : Turn) (c : Course σ) :
    (c.hear t).dispatcher =
      match t.exchange.announcement? with
      | some (operator, a) => (c.dispatcher.announce operator a t.reply.time).2
      | none => c.dispatcher := by
  unfold hear Turn.published?
  cases t.exchange.announcement? with
  | none => rfl
  | some said => exact dispatcher_attemptAll _ _ _ c

/-- Whom and what a list of attempts was about. -/
def addressed (attempts : List (Attempt σ)) : List (HandlerInstance σ × Occasion) :=
  attempts.map fun a => (a.delivery.subscriber, a.delivery.occasion)

end Course

structure Premises (σ : Type) where
  floor : Floor := {}
  course : Course σ

namespace Premises

inductive Step (admits : Floor → Order → Prop) (p : Premises σ) : Premises σ → Prop
  | ordered (o : Order) (admitted : admits p.floor o) :
      Step admits p { p with floor := p.floor.take o }
  | answered {asker : Nat} {reply : Reply} {g : Floor} {t : Turn}
      (h : p.floor.answer? asker reply = some g) (last : g.turns = p.floor.turns ++ [t]) :
      Step admits p ⟨g, p.course.hear t⟩
  | moved {e : Engine (Delivery σ) Ending (Backstage σ)}
      (h : p.course.dispatcher.engine.Move (Delivery.work p.course.dispatcher.timeout) e) :
      Step admits p { p with course := p.course.goOn { p.course.dispatcher with engine := e } }

/-- From an empty store and a dispatcher that was just made. -/
def Reached (admits : Floor → Order → Prop) (start : Dispatcher σ) (p : Premises σ) : Prop :=
  Relation.ReflTransGen (Step admits) ⟨{}, { dispatcher := start }⟩ p

/-- What the course is about: everything that was published, for each of its subscribers. -/
structure Regular (start : Dispatcher σ) (p : Premises σ) : Prop where
  course : Course.Runs { dispatcher := start } p.course
  opened : p.course.shutdowns = 0
  addressed : Course.addressed p.course.attempts =
    (p.floor.turns.filterMap Turn.published?).flatMap fun o =>
      (start.registry.lookup o.topic).map fun registered => (registered.subscriber, o)
  accepted : ∀ a ∈ p.course.attempts, a.refusal? = none

variable {admits : Floor → Order → Prop} {start : Dispatcher σ} {p p' : Premises σ}

theorem Step.floor (h : Step admits p p') :
    p.floor = p'.floor ∨ Floor.Step admits p.floor p'.floor := by
  cases h with
  | ordered o admitted => exact .inr (.ordered o admitted)
  | answered h _ => exact .inr (.answered _ _ h)
  | moved _ => exact .inl rfl

/-- Whatever can become of the operations alone can become of them together with a dispatcher. -/
theorem exists_reached (start : Dispatcher σ) {f : Floor} (h : Floor.Reached admits f) :
    ∃ p, Reached admits start p ∧ p.floor = f := by
  induction h with
  | refl => exact ⟨_, .refl, rfl⟩
  | tail _ step ih =>
      obtain ⟨p, reached, rfl⟩ := ih
      cases step with
      | ordered o admitted => exact ⟨_, reached.tail (.ordered o admitted), rfl⟩
      | answered asker reply h =>
          obtain ⟨o, q, next, -, rfl⟩ := Floor.answer?_eq_some h
          exact ⟨_, reached.tail (.answered h rfl), rfl⟩

theorem Reached.floor (reached : Reached admits start p) : Floor.Reached admits p.floor := by
  induction reached with
  | refl => exact .refl
  | tail _ step ih =>
      rcases step.floor with same | step
      · exact same ▸ ih
      · exact ih.tail step

theorem Regular.hear (h : Regular start p) (balanced : Course.Balanced { dispatcher := start })
    {g : Floor} {t : Turn} (last : g.turns = p.floor.turns ++ [t]) :
    Regular start ⟨g, p.course.hear t⟩ := by
  have opened := (balanced.runs h.course).not_shut h.opened
  have turns : g.turns.filterMap Turn.published? =
      p.floor.turns.filterMap Turn.published? ++ t.published?.toList := by
    rw [last, List.filterMap_append]
    cases published : t.published? <;> simp [published]
  unfold Course.hear
  cases published : t.published? with
  | none =>
      rw [published, Option.toList_none, List.append_nil] at turns
      exact ⟨h.course, h.opened, by rw [turns]; exact h.addressed, h.accepted⟩
  | some o =>
      rw [published, Option.toList_some] at turns
      obtain ⟨tried, attempts, who, -, -⟩ :=
        p.course.attemptAll_books o true (p.course.dispatcher.registry.lookup o.topic)
      refine ⟨h.course.trans (Course.runs_attemptAll _ _ _ _), ?_, ?_,
        Course.attemptAll_accepted opened o _ h.accepted⟩
      · rw [Course.shutdowns_attemptAll]
        exact h.opened
      · have same : p.course.dispatcher.registry = start.registry := h.course.registry
        rw [attempts, turns, List.flatMap_append, ← h.addressed, ← same]
        simp [Course.addressed, who]

theorem Regular.step (h : Regular start p) (balanced : Course.Balanced { dispatcher := start })
    (step : Step admits p p') : Regular start p' := by
  cases step with
  | ordered o _ => exact ⟨h.course, h.opened, h.addressed, h.accepted⟩
  | answered _ last => exact h.hear balanced last
  | moved move => exact ⟨h.course.tail (.moved move), h.opened, h.addressed, h.accepted⟩

theorem Reached.regular (reached : Reached admits start p)
    (balanced : Course.Balanced { dispatcher := start }) : Regular start p := by
  induction reached with
  | refl => exact ⟨.refl, rfl, rfl, nofun⟩
  | tail _ step ih => exact ih.step balanced step

/-- Everything that was published has been delivered once everybody was waited for, and the world
is what this has made of it. -/
theorem Regular.drained {timeout : Time.Span} {world : σ} (h : Regular start p)
    (balanced : Course.Balanced { dispatcher := start })
    (performed : Course.Performed timeout world { dispatcher := start }) :
    ∃ begun : List (Delivery σ),
      p.course.dispatcher.drain.world = begun.foldl Delivery.act world ∧
      (begun.map fun d => (d.subscriber, d.occasion)).Perm
        ((p.floor.turns.filterMap Turn.published?).flatMap fun o =>
          (start.registry.lookup o.topic).map fun registered => (registered.subscriber, o)) := by
  obtain ⟨c, call⟩ := p.course.call_drain
  have runs := h.course.trans call.runs
  have never : c.shutdowns = 0 := call.shutdowns.trans h.opened
  have idle : c.dispatcher.inFlight = 0 := by
    rw [call.dispatcher]
    exact Course.inFlight_drain (balanced.runs h.course)
  have attempts : c.attempts = p.course.attempts := by simpa using call.attempts
  have all : c.scheduled = p.course.attempts.map (·.delivery) := by
    rw [Course.scheduled, attempts, List.filter_eq_self.mpr]
    intro a ha
    rw [h.accepted a ha]
    rfl
  have perm := ((balanced.runs runs).scheduled_begun never idle).map fun d =>
    (d.subscriber, d.occasion)
  rw [all, List.map_map] at perm
  rw [← call.dispatcher]
  exact ⟨c.begun, (performed.runs balanced runs).acted, h.addressed ▸ perm.symm⟩

end Premises
end ProjectDesk
