import ProjectDesk.Proofs.Workflow.Floor
import ProjectDesk.Proofs.Workflow.Question

/-!
What every turn keeps, in whatever order the turns come: the store is sound and only ever advances,
what an undertaking has left to do is what its own exchanges leave of its order, and every decision
in the store was written in one of the turns.
-/

namespace ProjectDesk

namespace Exchange

/-- The decision that was written, if one was. -/
def decision? (e : Exchange Ask.interface) : Option (Int × Status) :=
  match e with
  | ⟨.statement s, answer⟩ => s.decision? answer
  | _ => none

/-- What was announced, if something was, and on whose behalf. -/
def announcement? (e : Exchange Ask.interface) : Option (String × Announcement) :=
  match e with
  | ⟨.announce operator a, _⟩ => some (operator, a)
  | _ => none

end Exchange

namespace Workflow

namespace Turn

variable {t : Turn} {r r' : Request} {id : Int} {decision : Status}

theorem advances (lawful : t.query.Lawful) : t.found.Advances t.left := by
  obtain ⟨asker, found, query, reply⟩ := t
  cases query with
  | statement s => exact Statement.advances lawful reply.time found
  | call _ | settings | announce _ _ => exact .same found

theorem decision_of_status_ne (sound : t.found.Sound) (hr : r ∈ t.found.rows)
    (hr' : r' ∈ t.left.rows) (same : r'.id = r.id) (changed : r'.status ≠ r.status) :
    t.exchange.decision? = some (r.id, r'.status) := by
  obtain ⟨asker, found, query, reply⟩ := t
  cases query with
  | statement s => exact Statement.decision_of_status_ne sound hr hr' same changed
  | call _ | settings | announce _ _ =>
      exact absurd (congrArg Request.status (sound.eq_of_id hr' hr same)) changed

theorem rows_of_decision (lawful : t.query.Lawful)
    (h : t.exchange.decision? = some (id, decision)) :
    (∃ r ∈ t.found.rows, r.id = id ∧ r.status = .notDetermined) ∧
      (∃ r ∈ t.left.rows, r.id = id ∧ r.status = decision) ∧ decision.isTerminal = true := by
  obtain ⟨asker, found, query, reply⟩ := t
  cases query with
  | statement s => exact Statement.rows_of_decision lawful h
  | call _ | settings | announce _ _ => cases h

end Turn

namespace Floor

variable {admits : Floor → Order → Prop} {f g : Floor}

structure Coherent (f : Floor) : Prop where
  sound : f.store.Sound
  lawful : ∀ t ∈ f.turns, t.query.Lawful
  found : ∀ t ∈ f.turns, t.found.Sound
  left : ∀ t ∈ f.turns, t.left.Precedes f.store
  ordered : f.turns.Pairwise fun t t' => t.left.Precedes t'.found
  asked : ∀ t ∈ f.turns, t.asker < f.undertakings.length
  traced : ∀ (i : Nat) (u : Undertaking), f.undertakings[i]? = some u →
    u.order.operation.run.Leads (f.exchangesOf i) u.rest
  decided : ∀ r ∈ f.store.rows, r.status ≠ .notDetermined →
    ∃ t ∈ f.turns, t.exchange.decision? = some (r.id, r.status)

theorem Coherent.empty : Coherent {} where
  sound := .empty
  lawful := by simp
  found := by simp
  left := by simp
  ordered := .nil
  asked := by simp
  traced := by simp
  decided := by simp

theorem exchangesOf_eq_nil (h : ∀ t ∈ f.turns, t.asker < f.undertakings.length) :
    f.exchangesOf f.undertakings.length = [] := by
  unfold exchangesOf
  rw [List.map_eq_nil_iff, List.filter_eq_nil_iff]
  intro t ht same
  have bound := h t ht
  rw [beq_iff_eq] at same
  omega

theorem Coherent.take (h : f.Coherent) (o : Order) : (f.take o).Coherent where
  sound := h.sound
  lawful := h.lawful
  found := h.found
  left := h.left
  ordered := h.ordered
  asked := by
    intro t ht
    have bound := h.asked t ht
    simp only [Floor.take, List.length_append]
    omega
  traced := by
    intro i u hu
    rw [Floor.take, List.getElem?_append] at hu
    split at hu
    · exact h.traced i u hu
    · rw [List.getElem?_singleton] at hu
      split at hu
      · cases hu
        have last : i = f.undertakings.length := by omega
        subst last
        have none : (f.take o).exchangesOf f.undertakings.length = [] := exchangesOf_eq_nil h.asked
        rw [none]
        exact .here _
      · cases hu
  decided := h.decided

theorem forall_mem_record {P : Turn → Prop} {t : Turn} {rest : Undertaking}
    (earlier : ∀ t' ∈ f.turns, P t') (last : P t) : ∀ t' ∈ (f.record t rest).turns, P t' := by
  intro t' ht'
  rcases List.mem_append.mp ht' with ht' | ht'
  · exact earlier t' ht'
  · rw [List.mem_singleton.mp ht']
    exact last

/-- The undertaking whose turn it is goes one exchange further, and the others stay. -/
theorem exchangesOf_record (t : Turn) (rest : Undertaking) (i : Nat) :
    (f.record t rest).exchangesOf i =
      if t.asker = i then f.exchangesOf i ++ [t.exchange] else f.exchangesOf i := by
  simp only [exchangesOf, record, List.filter_append, List.map_append]
  split
  · rename_i same
    simp [same]
  · rename_i other
    simp [other]

theorem Coherent.record (h : f.Coherent) {asker : Nat} {reply : Reply} {o : Order} {q : Ask}
    {next : q.Answer → Program Ask.interface (Except RequestError o.Result)}
    (underWay : f.undertakings[asker]? = some ⟨o, .ask (I := Ask.interface) q next⟩) :
    (f.record ⟨asker, f.store, q, reply⟩ ⟨o, next (reply.respond f.store q).1⟩).Coherent := by
  have leads := h.traced asker _ underWay
  have lawful : q.Lawful := (o.lawful.of_leads leads).2.1
  let t : Turn := ⟨asker, f.store, q, reply⟩
  have advances : f.store.Advances t.left := Turn.advances (t := t) lawful
  have inRange : asker < f.undertakings.length := (List.getElem?_eq_some_iff.mp underWay).1
  refine ⟨advances.sound h.sound, forall_mem_record h.lawful lawful,
    forall_mem_record h.found h.sound, ?_, ?_, ?_, ?_, ?_⟩
  · exact forall_mem_record (fun t' ht' => (h.left t' ht').trans advances.precedes) (.refl _)
  · refine List.pairwise_append.mpr ⟨h.ordered, List.pairwise_singleton _ _, ?_⟩
    intro t' ht' last hlast
    rw [List.mem_singleton.mp hlast]
    exact h.left t' ht'
  · rw [show ∀ rest, (f.record t rest).undertakings.length = f.undertakings.length by
      simp [Floor.record]]
    exact forall_mem_record h.asked inRange
  · intro i u hu
    rw [exchangesOf_record]
    simp only [Floor.record, List.getElem?_set] at hu
    split at hu
    · rename_i same
      subst same
      cases hu
      rw [if_pos rfl]
      exact leads.ask _
    · rename_i other
      rw [if_neg other]
      exact h.traced i u hu
  · intro r' hr' decided
    rcases advances.origin hr' with ⟨r, hr, amends⟩ | ⟨-, undecided, -⟩
    · by_cases same : r'.status = r.status
      · rw [same] at decided
        obtain ⟨t', ht', written⟩ := h.decided r hr decided
        refine ⟨t', List.mem_append_left _ ht', ?_⟩
        rw [written, same, amends.id]
      · refine ⟨t, List.mem_append_right _ (List.mem_singleton_self t), ?_⟩
        rw [Turn.decision_of_status_ne (t := t) h.sound hr hr' amends.id same, amends.id]
    · exact absurd undecided decided

theorem Coherent.step (h : f.Coherent) (step : Step admits f g) : g.Coherent := by
  cases step with
  | ordered o _ => exact h.take o
  | answered asker reply answered =>
      obtain ⟨o, q, next, underWay, rfl⟩ := answer?_eq_some answered
      exact h.record underWay

theorem Coherent.runs (h : f.Coherent) (runs : Runs admits f g) : g.Coherent := by
  induction runs with
  | refl => exact h
  | tail _ step ih => exact ih.step step

theorem Reached.coherent (reached : Reached admits f) : f.Coherent :=
  Coherent.empty.runs reached

end Floor
end Workflow
end ProjectDesk
