import ProjectDesk.Proofs.Workflow.Coherence

/-!
The life of a record, whatever operations are under way and however they take turns. A step amends
each record or leaves it, and adds at most new ones that are live and undecided; what that leaves
of a record over a whole run follows by induction.
-/

namespace ProjectDesk.Workflow.Floor

variable {admits : Floor → Order → Prop} {f g : Floor}

theorem Coherent.advances (h : f.Coherent) (step : Step admits f g) :
    f.store.Advances g.store := by
  cases step with
  | ordered o _ => exact .same f.store
  | answered asker reply answered =>
      obtain ⟨o, q, next, underWay, rfl⟩ := answer?_eq_some answered
      have leads := h.traced asker _ underWay
      exact Turn.advances (t := ⟨asker, f.store, q, reply⟩) (o.lawful.of_leads leads).2.1

theorem Coherent.precedes (h : f.Coherent) (runs : Runs admits f g) :
    f.store.Precedes g.store := by
  induction runs with
  | refl => exact .refl f.store
  | tail first step ih => exact ih.trans ((h.runs first).advances step).precedes

/-- Once a record has another status than before, it keeps that one. -/
theorem Coherent.status_kept (h : f.Coherent) {r r' : Request} (hr : r ∈ f.store.rows)
    (runs : Runs admits f g) (hr' : r' ∈ g.store.rows) (same : r'.id = r.id)
    (changed : r'.status ≠ r.status) {last : Floor} (further : Runs admits g last)
    {r'' : Request} (hr'' : r'' ∈ last.store.rows) (same' : r''.id = r'.id) :
    r''.status = r'.status := by
  have coherent := h.runs runs
  have first : r.Precedes r' := (h.precedes runs).at_id coherent.sound hr hr' same
  have second : r'.Precedes r'' :=
    (coherent.precedes further).at_id (coherent.runs further).sound hr' hr'' same'
  apply second.decided
  intro undecided
  apply changed
  by_cases decided : r.status = .notDetermined
  · rw [undecided, decided]
  · exact first.decided decided

theorem record_life (reached : Reached admits f) :
    (f.store.rows.map (·.id)).Nodup ∧
    (∀ g, Step admits f g →
      (∀ r ∈ f.store.rows, ∃ r' ∈ g.store.rows, r.Amends r') ∧
      ∀ r' ∈ g.store.rows, (∃ r ∈ f.store.rows, r.Amends r') ∨
        (r'.status = .notDetermined ∧ r'.deleted = false)) ∧
    ∀ g, Runs admits f g → ∀ r ∈ f.store.rows, ∃ r' ∈ g.store.rows, r.Precedes r' ∧
      (r'.status ≠ r.status → ∀ last, Runs admits g last →
        ∀ r'' ∈ last.store.rows, r''.id = r.id → r''.status = r'.status) := by
  have coherent := reached.coherent
  refine ⟨coherent.sound.distinct, ?_, ?_⟩
  · intro g step
    have advances := coherent.advances step
    refine ⟨fun r hr => advances.follow hr, ?_⟩
    intro r' hr'
    rcases advances.origin hr' with origin | ⟨-, undecided, live⟩
    · exact .inl origin
    · exact .inr ⟨undecided, live⟩
  · intro g runs r hr
    obtain ⟨r', hr', precedes⟩ := coherent.precedes runs r hr
    refine ⟨r', hr', precedes, ?_⟩
    intro changed last further r'' hr'' same
    exact coherent.status_kept hr runs hr' precedes.id changed further hr''
      (same.trans precedes.id.symm)

/-- After one request was made, at a moment when the other subsystems are down. -/
theorem record_life_alpha : ∃ f, Reached (fun _ _ => True) f ∧
    f.store.rows.map (·.name) = ["alpha"] ∧
    ∀ g, Runs (fun _ _ => True) f g →
      ∃ r' ∈ g.store.rows, r'.id = 1 ∧ (r'.deleted = false → r'.name = "alpha") := by
  let reply : Reply := ⟨⟨⟨2026, 6, 1⟩, 12, 0, 0, 0⟩, {}, 0, fun _ => .error (.failed "down")⟩
  have reached : Reached (fun _ _ => True) _ :=
    (Relation.ReflTransGen.single (.ordered (.create ⟨1, "ann", "alpha"⟩) trivial)).tail
      (.answered 0 reply rfl)
  refine ⟨_, reached, rfl, ?_⟩
  intro g runs
  obtain ⟨r', hr', precedes, -⟩ := (record_life reached).2.2 g runs _ (.head _)
  exact ⟨r', hr', precedes.id, precedes.name⟩

end ProjectDesk.Workflow.Floor
