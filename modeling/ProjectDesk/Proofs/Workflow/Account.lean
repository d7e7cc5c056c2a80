import ProjectDesk.Proofs.Workflow.Coherence

/-!
What approving and rejecting come to, whatever is answered on the way: either the decision was
written and announced, once each and in this order, or nothing was. A conflict that is reported has
been seen: on the caller's copy, on the stored request, or after the decision found nothing to
decide.
-/

namespace ProjectDesk.Workflow

/-- How a conflict was seen. -/
inductive Seen (x : Ruling) (t : List (Exchange Ask.interface)) : ConflictCause → Prop
  | onCopy (decided : x.request.status ≠ .notDetermined) :
      Seen x t (.alreadyDecided x.request.id x.request.status)
  | stored {current : Request}
      (read : ⟨Ask.statement (.findLive x.request.id), .ok (some current)⟩ ∈ t)
      (decided : current.status ≠ .notDetermined) :
      Seen x t (.alreadyDecided current.id current.status)
  | lost {current : Request}
      (read : [⟨Ask.statement (.transition x.request.id .notDetermined x.decision), .ok (0 : Nat)⟩,
        ⟨Ask.statement (.findLive x.request.id), .ok (some current)⟩].Sublist t) :
      Seen x t (.decidedMeanwhile x.request.id current.status)

/-- Neither a decision was written nor anything announced. -/
def Silent (t : List (Exchange Ask.interface)) : Prop :=
  t.filterMap Exchange.decision? = [] ∧ t.filterMap Exchange.announcement? = []

/-- What a decision comes to. -/
def Account (x : Ruling) (t : List (Exchange Ask.interface)) : Except RequestError Unit → Prop
  | .ok () => t.filterMap Exchange.decision? = [(x.request.id, x.decision)] ∧
      t.filterMap Exchange.announcement? = [(x.operator, x.announcement)]
  | .error e => Silent t ∧ ∀ cause, e = .conflict cause → Seen x t cause

/-- What the steps before the decision come to. -/
def Preparation {α : Type} (x : Ruling) (t : List (Exchange Ask.interface))
    (result : Except RequestError α) : Prop :=
  Silent t ∧ ∀ cause, result = .error (.conflict cause) → Seen x t cause

theorem Silent.append {t t' : List (Exchange Ask.interface)} (h : Silent t) (h' : Silent t') :
    Silent (t ++ t') := by
  constructor
  · rw [List.filterMap_append, h.1, h'.1]
    rfl
  · rw [List.filterMap_append, h.2, h'.2]
    rfl

theorem Silent.of_harmless {t : List (Exchange Ask.interface)}
    (h : ∀ e ∈ t, Ask.Harmless e.query) : Silent t := by
  constructor
  all_goals
    rw [List.filterMap_eq_nil_iff]
    intro e he
    obtain ⟨query, answer⟩ := e
    have harmless := h _ he
    cases query with
    | statement s =>
        cases s with
        | transition _ _ _ => exact harmless.elim
        | insert _ | findLive _ | findAny _ | findNamed _ | list _ | count _ | renameOwner _ _
        | softDelete _ => rfl
    | announce _ _ => exact harmless.elim
    | call _ | settings => rfl

variable {x : Ruling} {t t' : List (Exchange Ask.interface)}

theorem Seen.mono {cause : ConflictCause} (h : Seen x t cause) (within : t.Sublist t') :
    Seen x t' cause := by
  cases h with
  | onCopy decided => exact .onCopy decided
  | stored read decided => exact .stored (within.subset read) decided
  | lost read => exact .lost (read.trans within)

theorem Account.after {result : Except RequestError Unit} (silent : Silent t)
    (h : Account x t' result) : Account x (t ++ t') result := by
  cases result with
  | ok _ =>
      refine ⟨?_, ?_⟩
      · rw [List.filterMap_append, silent.1, h.1]
        rfl
      · rw [List.filterMap_append, silent.2, h.2]
        rfl
  | error e =>
      refine ⟨silent.append h.1, ?_⟩
      intro cause same
      exact (h.2 cause same).mono (List.sublist_append_right t t')

open Operation

variable {α : Type}

theorem account_bind {first : Operation α} {rest : α → Operation Unit}
    (prepared : first.Ensures (Preparation x)) (decided : ∀ a, (rest a).Ensures (Account x)) :
    (first >>= rest).Ensures (Account x) := by
  rw [ensures_bind]
  refine prepared.mono ?_
  intro t result h
  cases result with
  | ok a => exact (decided a).mono fun t' result => Account.after h.1
  | error e => exact ⟨h.1, fun cause same => h.2 cause (by rw [same])⟩

/-- A call to another subsystem fails as a dependency. -/
theorem call_preparation (step : WorkflowStep) (projectId : Option Int) (c : Call) :
    (call step projectId c).Ensures (Preparation x) := by
  rw [ensures_call]
  refine ⟨fun result => ⟨⟨rfl, rfl⟩, ?_⟩, fun e => ⟨⟨rfl, rfl⟩, ?_⟩⟩
  all_goals
    intro cause same
    cases same

theorem attachQuota_preparation (projectId : Int) :
    (attachQuota projectId).Ensures (Preparation x) := by
  unfold attachQuota settings
  rw [ensures_bind, ensures_query]
  intro config
  dsimp only
  split
  · refine (call_preparation (x := x) _ _ _).mono ?_
    intro t result h
    exact ⟨.append (t := [⟨Ask.settings, config⟩]) ⟨rfl, rfl⟩ h.1, fun cause same =>
      (h.2 cause same).mono (List.sublist_cons_self _ _)⟩
  · exact ⟨⟨rfl, rfl⟩, fun cause same => nomatch same⟩

theorem requireLiveUndecided_preparation (x : Ruling) :
    (requireLiveUndecided x.request).Ensures (Preparation x) := by
  unfold requireLiveUndecided
  rw [ensures_bind]
  unfold requireUndecided
  split
  · change ((statement (.findLive x.request.id)) >>= _).Ensures _
    rw [ensures_bind, ensures_statement]
    refine ⟨?_, fun e => ⟨⟨rfl, rfl⟩, fun cause same => nomatch same⟩⟩
    intro found
    cases found with
    | none => exact ⟨⟨rfl, rfl⟩, fun cause same => nomatch same⟩
    | some current =>
        dsimp only
        split
        · exact ⟨⟨rfl, rfl⟩, fun cause same => nomatch same⟩
        · rename_i decided
          refine ⟨⟨rfl, rfl⟩, ?_⟩
          intro cause same
          cases same
          exact .stored (List.mem_singleton_self _) decided
  · rename_i decided
    refine ⟨⟨rfl, rfl⟩, ?_⟩
    intro cause same
    cases same
    exact .onCopy decided

/-- Writing the decision and announcing it. -/
theorem persistDecision_account (x : Ruling) :
    (persistDecision x.request.id x.decision >>= fun _ =>
      announce x.operator x.announcement).Ensures (Account x) := by
  unfold persistDecision
  rw [ensures_bind, ensures_bind, ensures_statement]
  refine ⟨?_, fun e => ⟨⟨rfl, rfl⟩, fun cause same => nomatch same⟩⟩
  intro changed
  cases changed with
  | zero =>
      change ((statement (.findLive x.request.id)) >>= _).Ensures _
      rw [ensures_bind, ensures_statement]
      refine ⟨?_, fun e => ⟨⟨rfl, rfl⟩, fun cause same => nomatch same⟩⟩
      intro found
      cases found with
      | none => exact ⟨⟨rfl, rfl⟩, fun cause same => nomatch same⟩
      | some current =>
          refine ⟨⟨rfl, rfl⟩, ?_⟩
          intro cause same
          cases same
          exact .lost (.refl _)
  | succ n => exact fun _ => ⟨rfl, rfl⟩

theorem approve_account (operator : String) (r : Request) :
    (approve operator r).Ensures (Account ⟨operator, r, .approved⟩) := by
  refine account_bind (requireLiveUndecided_preparation ⟨operator, r, .approved⟩) fun _ => ?_
  refine account_bind (call_preparation _ _ _) fun projectId => ?_
  refine account_bind (attachQuota_preparation projectId) fun _ => ?_
  exact persistDecision_account ⟨operator, r, .approved⟩

theorem reject_account (operator : String) (r : Request) :
    (reject operator r).Ensures (Account ⟨operator, r, .rejected⟩) := by
  refine account_bind (requireLiveUndecided_preparation ⟨operator, r, .rejected⟩) fun _ => ?_
  exact persistDecision_account ⟨operator, r, .rejected⟩

end ProjectDesk.Workflow
