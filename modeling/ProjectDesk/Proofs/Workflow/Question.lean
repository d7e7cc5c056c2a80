import ProjectDesk.Proofs.Program.Exchange
import ProjectDesk.Proofs.Store.Amendment
import ProjectDesk.Proofs.Workflow.Order

/-!
The questions that operations ask, put together from those of their parts: an operation that asks
one thing and goes on asks both, and one that fails asks nothing more. Whoever decides a request
looks first whether it is live and undecided, and only then asks for anything to be changed, of this
request alone.
-/

namespace ProjectDesk

namespace Operation

variable {α β : Type} {allowed : Ask → Prop}

/-! What operations ask. -/

def AsksOnly (allowed : Ask → Prop) (operation : Operation α) : Prop :=
  Program.AsksOnly (I := Ask.interface) allowed operation.run

theorem asksOnly_pure (a : α) : (pure a : Operation α).AsksOnly allowed := trivial

theorem asksOnly_throw (e : RequestError) : (throw e : Operation α).AsksOnly allowed := trivial

theorem asksOnly_query {q : Ask} (h : allowed q) : (query q).AsksOnly allowed :=
  ⟨h, fun _ => trivial⟩

theorem asksOnly_bind {x : Operation α} {f : α → Operation β} (first : x.AsksOnly allowed)
    (rest : ∀ a, (f a).AsksOnly allowed) : (x >>= f).AsksOnly allowed := by
  refine Program.asksOnly_bind (f := ExceptT.bindCont f) first ?_
  intro result
  cases result with
  | ok a => exact rest a
  | error e => trivial

theorem asksOnly_statement {s : Statement} (h : allowed (.statement s)) :
    (statement s).AsksOnly allowed := by
  refine asksOnly_bind (asksOnly_query h) ?_
  intro answer
  cases answer with
  | ok result => exact asksOnly_pure result
  | error e => exact asksOnly_throw _

theorem asksOnly_call {step : WorkflowStep} {projectId : Option Int} {c : Call}
    (h : allowed (.call c)) : (call step projectId c).AsksOnly allowed := by
  refine asksOnly_bind (asksOnly_query h) ?_
  intro answer
  cases answer with
  | ok result => exact asksOnly_pure result
  | error e => exact asksOnly_throw _

/-! What operations come to. -/

def Ensures (operation : Operation α)
    (required : List (Exchange Ask.interface) → Except RequestError α → Prop) : Prop :=
  Program.Ensures operation.run required

variable {required : List (Exchange Ask.interface) → Except RequestError α → Prop}

theorem Ensures.mono {operation : Operation α}
    {other : List (Exchange Ask.interface) → Except RequestError α → Prop}
    (h : operation.Ensures required) (implies : ∀ t a, required t a → other t a) :
    operation.Ensures other :=
  Program.Ensures.mono h implies

theorem ensures_bind {x : Operation β} {f : β → Operation α} :
    (x >>= f).Ensures required ↔
      x.Ensures fun t result =>
        match result with
        | .ok b => (f b).Ensures fun t' a => required (t ++ t') a
        | .error e => required t (.error e) := by
  refine (Program.ensures_bind (p := x.run) (f := ExceptT.bindCont f)).trans ?_
  refine Program.ensures_congr fun t result => ?_
  cases result with
  | ok b => exact Iff.rfl
  | error e =>
      change required (t ++ []) _ ↔ required t _
      rw [List.append_nil]

theorem ensures_query {q : Ask} {required : List (Exchange Ask.interface) →
    Except RequestError q.Answer → Prop} :
    (query q).Ensures required ↔ ∀ answer, required [⟨q, answer⟩] (.ok answer) :=
  Iff.rfl

theorem ensures_statement {s : Statement} {required : List (Exchange Ask.interface) →
    Except RequestError s.Result → Prop} :
    (statement s).Ensures required ↔
      (∀ result, required [⟨Ask.statement s, .ok result⟩] (.ok result)) ∧
        ∀ e, required [⟨Ask.statement s, .error e⟩] (.error (.database e)) := by
  constructor
  · intro h
    exact ⟨fun result => h (.ok result), fun e => h (.error e)⟩
  · intro h answer
    cases answer with
    | ok result => exact h.1 result
    | error e => exact h.2 e

theorem ensures_call {step : WorkflowStep} {projectId : Option Int} {c : Call}
    {required : List (Exchange Ask.interface) → Except RequestError c.Result → Prop} :
    (call step projectId c).Ensures required ↔
      (∀ result, required [⟨Ask.call c, .ok result⟩] (.ok result)) ∧
        ∀ e, required [⟨Ask.call c, .error e⟩] (.error (.dependency step projectId e)) := by
  constructor
  · intro h
    exact ⟨fun result => h (.ok result), fun e => h (.error e)⟩
  · intro h answer
    cases answer with
    | ok result => exact h.1 result
    | error e => exact h.2 e

end Operation

/-- Asks for nothing to be changed. -/
def Ask.Reads : Ask → Prop
  | .statement (.findLive _) | .statement (.findAny _) | .statement (.findNamed _)
  | .statement (.list _) | .statement (.count _) | .call (.findUser _) | .settings => True
  | _ => False

/-- Decisions are the only changes of status that are asked for. -/
def Ask.Lawful : Ask → Prop
  | .statement s => s.Lawful
  | _ => True

/-- Neither decides anything nor announces it. -/
def Ask.Harmless : Ask → Prop
  | .statement (.transition _ _ _) | .announce _ _ => False
  | _ => True

theorem Ask.Harmless.lawful {q : Ask} (h : q.Harmless) : q.Lawful := by
  cases q with
  | statement s =>
      cases s with
      | transition id before after => exact h.elim
      | insert _ | findLive _ | findAny _ | findNamed _ | list _ | count _ | renameOwner _ _
      | softDelete _ => trivial
  | call _ | settings | announce _ _ => trivial

theorem Ask.Reads.harmless {q : Ask} (h : q.Reads) : q.Harmless := by
  cases q with
  | statement s =>
      cases s with
      | transition _ _ _ => exact h.elim
      | insert _ | findLive _ | findAny _ | findNamed _ | list _ | count _ | renameOwner _ _
      | softDelete _ => trivial
  | announce _ _ => exact h.elim
  | call _ | settings => trivial

namespace Ruling

/-- What may be asked for a decision, besides what changes nothing. -/
def Concerns (x : Ruling) : Ask → Prop
  | .call (.createProject name ownerId) => name = x.request.name ∧ ownerId = x.request.ownerId
  | .call (.createQuota _ _) | .call (.findUser _) => True
  | .statement (.transition id before after) =>
      id = x.request.id ∧ before = .notDetermined ∧ after = x.decision
  | .announce operator a => operator = x.operator ∧ a = x.announcement
  | q => q.Reads

theorem concerns_of_reads {x : Ruling} {q : Ask} (h : q.Reads) : x.Concerns q := by
  cases q with
  | statement s =>
      cases s with
      | transition _ _ _ => exact h.elim
      | insert _ | findLive _ | findAny _ | findNamed _ | list _ | count _ | renameOwner _ _
      | softDelete _ => exact h
  | call c =>
      cases c with
      | createProject _ _ | createQuota _ _ => exact h.elim
      | findUser _ | sendMail _ _ | submitJob _ | findTag _ _ | updatePullTime _ _ _
      | addPullCount _ | autoScan _ _ => exact h
  | announce _ _ => exact h.elim
  | settings => exact h

theorem Concerns.lawful {x : Ruling} {q : Ask} (terminal : x.decision.isTerminal = true)
    (h : x.Concerns q) : q.Lawful := by
  cases q with
  | statement s =>
      cases s with
      | transition id before after => exact ⟨h.2.1, by rw [h.2.2]; exact terminal⟩
      | insert _ | findLive _ | findAny _ | findNamed _ | list _ | count _ | renameOwner _ _
      | softDelete _ => trivial
  | call _ | settings | announce _ _ => trivial

/-- The request was found to be live and undecided. -/
def Checked (x : Ruling) (t : List (Exchange Ask.interface)) : Prop :=
  ∃ current, ⟨Ask.statement (.findLive x.request.id), .ok (some current)⟩ ∈ t ∧
    current.status = .notDetermined

theorem Checked.append {x : Ruling} {t : List (Exchange Ask.interface)} (h : x.Checked t)
    (more : List (Exchange Ask.interface)) : x.Checked (t ++ more) := by
  obtain ⟨current, found, undecided⟩ := h
  exact ⟨current, List.mem_append_left more found, undecided⟩

/-- Whatever changes anything comes after the check. -/
def Permits (x : Ruling) (before : List (Exchange Ask.interface)) (q : Ask) : Prop :=
  x.Concerns q ∧ (q.Reads ∨ x.Checked before)

end Ruling

namespace Workflow
open Operation

/-! Making, finding, listing and deleting. -/

theorem create_asks (draft : Draft) : (create draft).AsksOnly fun q =>
    q = .statement (.insert draft) ∧ checkDraft draft = .ok () := by
  unfold create
  split
  · exact asksOnly_throw _
  · rename_i valid
    refine asksOnly_bind (asksOnly_query ⟨rfl, valid⟩) ?_
    intro answer
    split
    · exact asksOnly_pure _
    · exact asksOnly_throw _
    · exact asksOnly_throw _

theorem find_reads (ref : RequestRef) : (find ref).AsksOnly Ask.Reads := by
  cases ref with
  | id _ | name _ =>
      refine asksOnly_bind (asksOnly_statement trivial) ?_
      intro found
      dsimp only
      split
      · exact asksOnly_pure _
      · exact asksOnly_throw _

theorem isThere_reads (ref : RequestRef) : (isThere ref).AsksOnly Ask.Reads := by
  refine Program.asksOnly_bind (find_reads ref) ?_
  intro result
  split <;> trivial

theorem askOwners_reads (known : OwnerNames) (rows : List Request) :
    (askOwners known rows).AsksOnly Ask.Reads := by
  induction rows generalizing known with
  | nil => exact asksOnly_pure known
  | cons r rest ih =>
      unfold askOwners
      split
      · exact ih known
      · exact asksOnly_bind (asksOnly_call trivial) fun user => ih _

theorem list_reads (q : Query) (withOwner : Bool) : (list q withOwner).AsksOnly Ask.Reads := by
  refine asksOnly_bind (asksOnly_statement trivial) ?_
  intro rows
  split
  · exact asksOnly_bind (askOwners_reads [] rows) fun names => asksOnly_pure _
  · exact asksOnly_pure rows

theorem get_reads (ref : RequestRef) (withOwner : Bool) :
    (get ref withOwner).AsksOnly Ask.Reads := by
  refine asksOnly_bind (find_reads ref) ?_
  intro found
  split
  · exact asksOnly_bind (askOwners_reads [] [found]) fun names => asksOnly_pure _
  · exact asksOnly_pure found

theorem getByName_reads (name : String) (withOwner : Bool) :
    (getByName name withOwner).AsksOnly Ask.Reads := by
  unfold getByName
  split
  · exact asksOnly_throw _
  · exact get_reads _ _

theorem delete_asks (id : Int) :
    (delete id).AsksOnly fun q => q = .statement (.softDelete id) := by
  refine asksOnly_bind (asksOnly_statement rfl) ?_
  intro row
  split
  · exact asksOnly_pure _
  · exact asksOnly_throw _

/-! Approving and rejecting. -/

theorem requireUndecided_reads (r : Request) : (requireUndecided r).AsksOnly Ask.Reads := by
  unfold requireUndecided
  split
  · exact asksOnly_pure _
  · exact asksOnly_throw _

theorem requireLiveUndecided_reads (r : Request) :
    (requireLiveUndecided r).AsksOnly Ask.Reads := by
  refine asksOnly_bind (requireUndecided_reads r) fun _ => ?_
  refine asksOnly_bind (asksOnly_statement trivial) ?_
  intro found
  split
  · exact requireUndecided_reads _
  · exact asksOnly_throw _

/-- It returns only if the request is live and undecided. -/
theorem requireLiveUndecided_checks (x : Ruling) :
    (requireLiveUndecided x.request).Ensures fun t result =>
      result = .ok () → x.Checked t := by
  unfold requireLiveUndecided requireUndecided
  split
  · change ((statement (.findLive x.request.id)) >>= _).Ensures _
    rw [ensures_bind, ensures_statement]
    refine ⟨?_, fun e failed => nomatch failed⟩
    intro found
    cases found with
    | none => exact fun failed => nomatch failed
    | some current =>
        dsimp only
        split
        · rename_i undecided
          exact fun _ => ⟨current, .head _, undecided⟩
        · exact fun failed => nomatch failed
  · exact fun failed => nomatch failed

variable {x : Ruling}

theorem attachQuota_concerns (projectId : Int) :
    (attachQuota projectId).AsksOnly x.Concerns := by
  refine asksOnly_bind (asksOnly_query trivial) ?_
  intro config
  dsimp only
  split
  · exact asksOnly_call trivial
  · exact asksOnly_pure _

theorem persistDecision_concerns (x : Ruling) :
    (persistDecision x.request.id x.decision).AsksOnly x.Concerns := by
  refine asksOnly_bind (asksOnly_statement ⟨rfl, rfl, rfl⟩) ?_
  intro changed
  split
  · refine asksOnly_bind (asksOnly_statement trivial) ?_
    intro found
    split <;> exact asksOnly_throw _
  · exact asksOnly_pure _

/-- First the check, and what it concerns after that. -/
theorem guarded_of_check {rest : Unit → Operation Unit}
    (concerns : (rest ()).AsksOnly x.Concerns) :
    Program.Guarded x.Permits [] (requireLiveUndecided x.request >>= rest).run := by
  have look : Program.Guarded x.Permits [] (requireLiveUndecided x.request).run :=
    (requireLiveUndecided_reads x.request).guarded fun _ _ reads =>
      ⟨Ruling.concerns_of_reads reads, .inl reads⟩
  refine Program.guarded_bind (f := ExceptT.bindCont rest) look ?_
  refine (requireLiveUndecided_checks x).mono fun t result checks => ?_
  cases result with
  | ok _ =>
      exact concerns.guarded fun more _ concerned => ⟨concerned, .inr ((checks rfl).append more)⟩
  | error e => trivial

theorem reject_guarded (operator : String) (r : Request) :
    Program.Guarded (Ruling.mk operator r .rejected).Permits [] (reject operator r).run := by
  refine guarded_of_check ?_
  refine asksOnly_bind (persistDecision_concerns ⟨operator, r, .rejected⟩) fun _ => ?_
  exact asksOnly_query ⟨rfl, rfl⟩

theorem approve_guarded (operator : String) (r : Request) :
    Program.Guarded (Ruling.mk operator r .approved).Permits [] (approve operator r).run := by
  refine guarded_of_check ?_
  refine asksOnly_bind (asksOnly_call ⟨rfl, rfl⟩) fun projectId => ?_
  refine asksOnly_bind (attachQuota_concerns projectId) fun _ => ?_
  refine asksOnly_bind (persistDecision_concerns ⟨operator, r, .approved⟩) fun _ => ?_
  exact asksOnly_query ⟨rfl, rfl⟩

/-! Whatever is ordered. -/

namespace Order

/-- What may be asked for an order, after what was exchanged for it before. -/
def Allows : Order → List (Exchange Ask.interface) → Ask → Prop
  | .create draft, _, q => q = .statement (.insert draft) ∧ checkDraft draft = .ok ()
  | .approve operator r, before, q => (Ruling.mk operator r .approved).Permits before q
  | .reject operator r, before, q => (Ruling.mk operator r .rejected).Permits before q
  | .delete id, _, q => q = .statement (.softDelete id)
  | .renameOwner ownerId ownerName, _, q => q = .statement (.renameOwner ownerId ownerName)
  | .get _ _, _, q | .getByName _ _, _, q | .isThere _, _, q | .list _ _, _, q | .count _, _, q =>
      q.Reads

theorem guarded (o : Order) : Program.Guarded o.Allows [] o.operation.run := by
  cases o with
  | create draft => exact (create_asks draft).guarded fun _ _ asked => asked
  | get ref withOwner => exact (get_reads ref withOwner).guarded fun _ _ reads => reads
  | getByName name withOwner => exact (getByName_reads name withOwner).guarded fun _ _ reads => reads
  | isThere ref => exact (isThere_reads ref).guarded fun _ _ reads => reads
  | list q withOwner => exact (list_reads q withOwner).guarded fun _ _ reads => reads
  | count q =>
      have reads : (Workflow.count q).AsksOnly Ask.Reads := asksOnly_statement trivial
      exact reads.guarded fun _ _ reads => reads
  | approve operator r => exact approve_guarded operator r
  | reject operator r => exact reject_guarded operator r
  | delete id => exact (delete_asks id).guarded fun _ _ asked => asked
  | renameOwner ownerId ownerName =>
      have asks : (statement (.renameOwner ownerId ownerName)).AsksOnly fun q =>
          q = .statement (.renameOwner ownerId ownerName) := asksOnly_statement rfl
      exact asks.guarded fun _ _ asked => asked

theorem Allows.lawful {o : Order} {t : List (Exchange Ask.interface)} {q : Ask}
    (h : o.Allows t q) : q.Lawful := by
  cases o with
  | create _ =>
      rw [h.1]
      trivial
  | approve _ _ | reject _ _ => exact h.1.lawful rfl
  | delete _ | renameOwner _ _ =>
      rw [show q = _ from h]
      trivial
  | get _ _ | getByName _ _ | isThere _ | list _ _ | count _ => exact h.harmless.lawful

theorem lawful (o : Order) : o.operation.AsksOnly Ask.Lawful :=
  o.guarded.asksOnly fun _ _ => Allows.lawful

/-- Only approving and rejecting decide and announce. -/
theorem harmless {o : Order} (none : o.ruling? = none) : o.operation.AsksOnly Ask.Harmless := by
  refine o.guarded.asksOnly fun t q allowed => ?_
  cases o with
  | create _ =>
      rw [allowed.1]
      trivial
  | approve _ _ | reject _ _ => cases none
  | delete _ | renameOwner _ _ =>
      rw [show q = _ from allowed]
      trivial
  | get _ _ | getByName _ _ | isThere _ | list _ _ | count _ => exact allowed.harmless

end Order
end Workflow
end ProjectDesk
