import ProjectDesk.Proofs.Workflow.RecordLife

/-!
Callers that decide on what they were shown. What was shown once is never contradicted later: the
store knows the request from then on, as long as it is live under the name that the copy shows, and
a decision that the copy shows is the one that is stored.
-/

namespace ProjectDesk

/-- What a record still has in common with an earlier copy of it. -/
structure Request.Recalls (row copy : Request) : Prop where
  id : row.id = copy.id
  ownerId : row.ownerId = copy.ownerId
  status : copy.status ≠ .notDetermined → row.status = copy.status
  name : row.deleted = false → row.name = copy.name

theorem Request.Recalls.later {row row' copy : Request} (h : row.Recalls copy)
    (kept : row.Precedes row') : row'.Recalls copy where
  id := kept.id.trans h.id
  ownerId := kept.ownerId.trans h.ownerId
  status := by
    intro decided
    have shown := h.status decided
    rw [kept.decided (by rw [shown]; exact decided), shown]
  name := fun live => (kept.name live).trans (h.name (kept.live live))

def Store.Knows (s : Store) (copy : Request) : Prop :=
  ∃ row ∈ s.rows, row.Recalls copy

theorem Store.Knows.later {s s' : Store} {copy : Request} (h : s.Knows copy)
    (precedes : s.Precedes s') : s'.Knows copy := by
  obtain ⟨row, hrow, recalls⟩ := h
  obtain ⟨row', hrow', kept⟩ := precedes row hrow
  exact ⟨row', hrow', recalls.later kept⟩

namespace Workflow.Floor

variable {admits : Floor → Order → Prop} {f g : Floor} {r : Request} {i : Nat}

/-- A copy of some record at some time, perhaps with the owner's present name. -/
def Shown (f : Floor) (r : Request) : Prop :=
  ∃ s ∈ f.stores, ∃ row ∈ s.rows, { row with ownerName := r.ownerName } = r

/-- Only a request that was shown is decided on. -/
def Snapshots (f : Floor) (o : Order) : Prop :=
  ∀ x, o.ruling? = some x → f.Shown x.request

instance (f : Floor) (r : Request) : Decidable (f.Shown r) :=
  inferInstanceAs (Decidable (∃ s ∈ f.stores, ∃ row ∈ s.rows, _ = _))

instance (f : Floor) (o : Order) : Decidable (Snapshots f o) :=
  match h : o.ruling? with
  | none => .isTrue fun _ same => nomatch h.symm.trans same
  | some x =>
      decidable_of_iff (f.Shown x.request)
        ⟨fun shown _ same => Option.some.inj (h.symm.trans same) ▸ shown, fun all => all x h⟩

theorem Coherent.precedes_of_mem_stores (h : f.Coherent) {s : Store} (hs : s ∈ f.stores) :
    s.Precedes f.store := by
  rcases List.mem_append.mp hs with past | present
  · obtain ⟨t, ht, rfl⟩ := List.mem_map.mp past
    exact (t.advances (h.lawful t ht)).precedes.trans (h.left t ht)
  · rw [List.mem_singleton.mp present]
    exact .refl f.store

theorem Coherent.knows_of_shown (h : f.Coherent) (shown : f.Shown r) : f.store.Knows r := by
  obtain ⟨s, hs, row, hrow, same⟩ := shown
  have known : s.Knows r := by
    rw [← same]
    exact ⟨row, hrow, rfl, rfl, fun _ => rfl, fun _ => rfl⟩
  exact known.later (h.precedes_of_mem_stores hs)

/-- The request is known now, and was known whenever this one had its turn. -/
def Aware (f : Floor) (i : Nat) (copy : Request) : Prop :=
  f.store.Knows copy ∧ ∀ t ∈ f.turns, t.asker = i → t.found.Knows copy

/-- Whoever comes next has not had a turn. -/
theorem Coherent.aware_of_shown (h : f.Coherent) (shown : f.Shown r) :
    f.Aware f.undertakings.length r := by
  refine ⟨h.knows_of_shown shown, ?_⟩
  intro t ht same
  have bound := h.asked t ht
  omega

theorem Aware.step (aware : f.Aware i r) (h : f.Coherent) (step : Step admits f g) :
    g.Aware i r := by
  have advances := h.advances step
  obtain ⟨now, earlier⟩ := aware
  cases step with
  | ordered o _ => exact ⟨now, earlier⟩
  | answered asker reply answered =>
      obtain ⟨o, q, next, -, rfl⟩ := answer?_eq_some answered
      exact ⟨now.later advances.precedes, forall_mem_record earlier fun _ => now⟩

theorem Aware.runs (aware : f.Aware i r) (h : f.Coherent) (runs : Runs admits f g) :
    g.Aware i r := by
  induction runs with
  | refl => exact aware
  | tail first step ih => exact ih.step (h.runs first) step

/-- What was ordered stays ordered. -/
theorem Step.order_kept {u : Undertaking} (step : Step admits f g)
    (hu : f.undertakings[i]? = some u) : ∃ rest, g.undertakings[i]? = some ⟨u.order, rest⟩ := by
  have inRange : i < f.undertakings.length := (List.getElem?_eq_some_iff.mp hu).1
  cases step with
  | ordered o _ =>
      refine ⟨u.rest, ?_⟩
      rw [Floor.take, List.getElem?_append_left inRange]
      exact hu
  | answered asker reply answered =>
      obtain ⟨o, q, next, underWay, rfl⟩ := answer?_eq_some answered
      by_cases same : asker = i
      · subst same
        cases underWay.symm.trans hu
        exact ⟨_, List.getElem?_set_self inRange⟩
      · refine ⟨u.rest, ?_⟩
        rw [Floor.record, List.getElem?_set_ne same]
        exact hu

theorem Runs.order_kept {u : Undertaking} (runs : Runs admits f g)
    (hu : f.undertakings[i]? = some u) : ∃ rest, g.undertakings[i]? = some ⟨u.order, rest⟩ := by
  induction runs with
  | refl => exact ⟨u.rest, hu⟩
  | tail _ step ih =>
      obtain ⟨rest, before⟩ := ih
      exact step.order_kept (u := ⟨u.order, rest⟩) before

/-- Whoever decides on a request knows it from the order on. -/
def Informed (f : Floor) : Prop :=
  ∀ (i : Nat) (u : Undertaking) (x : Ruling), f.undertakings[i]? = some u →
    u.order.ruling? = some x → f.Aware i x.request

theorem Informed.step (informed : f.Informed) (h : f.Coherent) (step : Step Snapshots f g) :
    g.Informed := by
  intro i u x hu ruling
  by_cases known : i < f.undertakings.length
  · obtain ⟨rest, kept⟩ := step.order_kept (List.getElem?_eq_getElem known)
    cases kept.symm.trans hu
    exact (informed i _ x (List.getElem?_eq_getElem known) ruling).step h step
  · have inRange := (List.getElem?_eq_some_iff.mp hu).1
    cases step with
    | ordered o admitted =>
        rw [Floor.take, List.length_append, List.length_singleton] at inRange
        obtain rfl : i = f.undertakings.length := by omega
        rw [Floor.take, List.getElem?_concat_length] at hu
        cases hu
        exact h.aware_of_shown (admitted x ruling)
    | answered asker reply answered =>
        obtain ⟨o, q, next, -, rfl⟩ := answer?_eq_some answered
        rw [Floor.record, List.length_set] at inRange
        exact absurd inRange known

theorem Reached.informed (reached : Reached Snapshots f) : f.Informed := by
  induction reached with
  | refl =>
      intro i u x hu
      cases hu
  | tail first step ih => exact ih.step (Reached.coherent first) step

end Workflow.Floor
end ProjectDesk
