import ProjectDesk.Proofs.Workflow.Winner

/-!
An announcement is the last thing that is done for a decision, and for how many handlers deliveries
were scheduled makes no difference; so whoever has made one has returned already, even if others are
still under way.
-/

namespace ProjectDesk

def Ask.Announces : Ask → Prop
  | .announce _ _ => True
  | _ => False

theorem Ask.Harmless.not_announces {q : Ask} (h : q.Harmless) : ¬ q.Announces := by
  cases q with
  | announce _ _ => exact h.elim
  | statement _ | call _ | settings => exact id

theorem Exchange.announces_of_announcement? {e : Exchange Ask.interface}
    {said : String × Announcement} (h : e.announcement? = some said) :
    Ask.Announces e.query := by
  obtain ⟨query, answer⟩ := e
  cases query with
  | announce _ _ => trivial
  | statement _ | call _ | settings => cases h

namespace Operation

variable {α β : Type}

def EndsWith (last : Ask → Prop) (operation : Operation α) : Prop :=
  Program.EndsWith (I := Ask.interface) last operation.run

theorem endsWith_bind {last : Ask → Prop} {x : Operation α} {f : α → Operation β}
    (first : x.AsksOnly fun q => ¬ last q) (rest : ∀ a, (f a).EndsWith last) :
    (x >>= f).EndsWith last := by
  refine Program.endsWith_bind (f := ExceptT.bindCont f) first ?_
  intro result
  cases result with
  | ok a => exact rest a
  | error e => trivial

theorem endsWith_announce {last : Ask → Prop} (operator : String) (a : Announcement) :
    (announce operator a).EndsWith last :=
  ⟨fun _ => ⟨.ok (), fun _ => rfl⟩, fun _ => trivial⟩

end Operation

namespace Workflow
open Operation

theorem requireLiveUndecided_not_announces (r : Request) :
    (requireLiveUndecided r).AsksOnly fun q => ¬ q.Announces :=
  Program.AsksOnly.mono (requireLiveUndecided_reads r) fun _ reads => reads.harmless.not_announces

theorem attachQuota_not_announces (projectId : Int) :
    (attachQuota projectId).AsksOnly fun q => ¬ q.Announces := by
  refine asksOnly_bind (asksOnly_query id) ?_
  intro config
  dsimp only
  split
  · exact asksOnly_call id
  · exact asksOnly_pure _

theorem persistDecision_not_announces (id : Int) (decision : Status) :
    (persistDecision id decision).AsksOnly fun q => ¬ q.Announces := by
  refine asksOnly_bind (asksOnly_statement fun no => no) ?_
  intro changed
  split
  · refine asksOnly_bind (asksOnly_statement fun no => no) ?_
    intro found
    split <;> exact asksOnly_throw _
  · exact asksOnly_pure _

theorem approve_endsWith (operator : String) (r : Request) :
    (approve operator r).EndsWith Ask.Announces := by
  refine endsWith_bind (requireLiveUndecided_not_announces r) fun _ => ?_
  refine endsWith_bind (asksOnly_call id) fun projectId => ?_
  refine endsWith_bind (attachQuota_not_announces projectId) fun _ => ?_
  refine endsWith_bind (persistDecision_not_announces r.id .approved) fun _ => ?_
  exact endsWith_announce _ _

theorem reject_endsWith (operator : String) (r : Request) :
    (reject operator r).EndsWith Ask.Announces := by
  refine endsWith_bind (requireLiveUndecided_not_announces r) fun _ => ?_
  refine endsWith_bind (persistDecision_not_announces r.id .rejected) fun _ => ?_
  exact endsWith_announce _ _

theorem Order.endsWith (o : Order) : o.operation.EndsWith Ask.Announces := by
  cases ruling : o.ruling? with
  | none =>
      have harmless := Order.harmless ruling
      exact Program.AsksOnly.endsWith (harmless.mono fun _ harmless => harmless.not_announces)
  | some x =>
      cases o with
      | approve operator r => exact approve_endsWith operator r
      | reject operator r => exact reject_endsWith operator r
      | create _ | get _ _ | getByName _ _ | isThere _ | list _ _ | count _ | delete _
      | renameOwner _ _ => cases ruling

namespace Floor

variable {f : Floor} {t : Turn}

/-- Whoever has announced something has returned. -/
theorem Coherent.returned_of_announcement (coherent : f.Coherent) (ht : t ∈ f.turns)
    {said : String × Announcement} (announced : t.exchange.announcement? = some said) :
    ∃ x result, f.Returned t.asker x result := by
  obtain ⟨⟨o, rest⟩, hu⟩ : ∃ u, f.undertakings[t.asker]? = some u :=
    ⟨_, List.getElem?_eq_getElem (coherent.asked t ht)⟩
  have leads := coherent.traced _ _ hu
  have mine := mem_exchangesOf ht
  have announces := Exchange.announces_of_announcement? announced
  obtain ⟨result, rfl⟩ := o.endsWith.of_leads leads mine announces
  cases ruling : o.ruling? with
  | none =>
      have harmless := ((Order.harmless ruling).of_leads leads).1 _ mine
      exact absurd announces harmless.not_announces
  | some x =>
      cases o with
      | approve _ _ => exact ⟨_, result, .approve hu⟩
      | reject _ _ => exact ⟨_, result, .reject hu⟩
      | create _ | get _ _ | getByName _ _ | isThere _ | list _ _ | count _ | delete _
      | renameOwner _ _ => cases ruling

/-- Who has announced something has won, even if others are still under way. -/
theorem Coherent.granted_of_announcement (coherent : f.Coherent) (ht : t ∈ f.turns)
    {operator : String} {a : Announcement}
    (said : t.exchange.announcement? = some (operator, a)) :
    ∃ x, f.Returned t.asker x (.ok ()) ∧ x.operator = operator ∧ x.announcement = a := by
  obtain ⟨x, result, returned⟩ := coherent.returned_of_announcement ht said
  obtain ⟨rfl, about⟩ := returned.announced coherent ht said
  exact ⟨x, returned, about⟩

end Floor
end Workflow
end ProjectDesk
