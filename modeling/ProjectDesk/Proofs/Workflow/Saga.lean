import ProjectDesk.Proofs.Store.Awaiting
import ProjectDesk.Proofs.Workflow.Approval
import ProjectDesk.Proofs.Workflow.Coherence

/-!
Approving as a whole: what is asked for and in what order, what follows from each failure, and when
a request is approved in the end. The surroundings may be other ones at every question, so that
other callers can have changed the store in any way while a project or a quota is being made.
-/

namespace ProjectDesk

/-- What a question finds. -/
structure Moment where
  database : Database
  reply : Workflow.Reply

def Moment.answer (now : Moment) : (q : Ask) → q.Answer
  | .statement s => (now.database.perform now.reply.time s).1
  | .call c => now.reply.call c
  | .settings => now.reply.config
  | .announce _ _ => now.reply.scheduled

/-- All that is asked, with the answers, and the result. -/
def Operation.attend {α : Type} (o : Operation α) (env : Nat → Moment) :
    List (Exchange Ask.interface) × Except RequestError α :=
  Program.attend (fun n => (env n).answer) o.run

namespace Workflow

def asked (t : List (Exchange Ask.interface)) : List Ask :=
  t.map fun e => e.query

section Asked

variable {t t' : List (Exchange Ask.interface)} {q q' : Ask}

@[simp] theorem asked_nil : asked [] = [] := rfl

@[simp] theorem asked_cons (q : Ask) (answer : q.Answer) (t : List (Exchange Ask.interface)) :
    asked (⟨q, answer⟩ :: t) = q :: asked t := rfl

@[simp] theorem asked_append : asked (t ++ t') = asked t ++ asked t' := List.map_append

@[simp] theorem exchange_eq_iff {a b : q.Answer} :
    (⟨q, a⟩ : Exchange Ask.interface) = ⟨q, b⟩ ↔ a = b := by
  constructor
  · intro same
    cases same
    rfl
  · rintro rfl
    rfl

@[simp] theorem exchange_eq_false {a : q.Answer} {b : q'.Answer} (other : q ≠ q') :
    ((⟨q, a⟩ : Exchange Ask.interface) = ⟨q', b⟩) = False :=
  eq_false fun same => other (congrArg Exchange.query same)

@[simp] theorem createQuota_eq_iff {reference reference' : QuotaReference}
    {limits limits' : ResourceLimits} {a b : Except CollaboratorError Unit} :
    (⟨Ask.call (.createQuota reference limits), a⟩ : Exchange Ask.interface) =
        ⟨Ask.call (.createQuota reference' limits'), b⟩ ↔
      reference = reference' ∧ limits = limits' ∧ a = b := by
  constructor
  · intro same
    cases same
    exact ⟨rfl, rfl, rfl⟩
  · rintro ⟨rfl, rfl, rfl⟩
    rfl

end Asked

variable {operator : String} {r : Request} {projectId : Int} {env : Nat → Moment}
  {t : List (Exchange Ask.interface)} {result : Except RequestError Unit}

/-- What is asked before the decision is written. -/
def preparation (r : Request) (projectId : Int) (quota : QuotaConfig) : List Ask :=
  askCheck r :: askProject r :: .settings ::
    if quota.enabledPerProject then [askQuota projectId quota] else []

theorem Examined.of_ok (h : Examined r t (.ok ())) :
    r.status = .notDetermined ∧ ∃ current, current.status = .notDetermined ∧
      t = [⟨askCheck r, .ok (some current)⟩] := by
  cases h with
  | passed undecided live => exact ⟨undecided, _, live, rfl⟩

theorem Settled.begins (h : Settled operator r t result) :
    ∃ answer after, t = ⟨askWrite r, answer⟩ :: after ∧ askWrite r ∉ asked after := by
  cases h with
  | failed | unread | gone | lost | written => exact ⟨_, _, rfl, by simp⟩

namespace Approval

theorem ordered (h : Approval operator r t result) :
    ∃ projectId quota,
      (asked t <+: preparation r projectId quota ++ [askWrite r, askNotice operator r] ∨
        asked t = preparation r projectId quota ++ [askWrite r, askCheck r]) ∧
      (∀ id, ⟨askProject r, .ok id⟩ ∈ t → id = projectId) ∧
      ∀ config : Config, ⟨Ask.settings, config⟩ ∈ t → config.quota = quota := by
  cases h with
  | refused examined =>
      refine ⟨0, {}, .inl ?_, ?_⟩ <;> cases examined <;> simp [preparation]
  | noProject examined =>
      obtain ⟨-, current, -, rfl⟩ := examined.of_ok
      exact ⟨0, {}, .inl (by simp [preparation]), by simp⟩
  | @noQuota _ _ projectId _ examined limited =>
      obtain ⟨-, current, -, rfl⟩ := examined.of_ok
      cases limited with
      | @failed config _ on =>
          exact ⟨projectId, config.quota, .inl (by simp [preparation, on]), by simp⟩
  | @settled _ _ _ projectId _ examined limited settled =>
      obtain ⟨-, current, -, rfl⟩ := examined.of_ok
      cases limited with
      | @unlimited config off =>
          refine ⟨projectId, config.quota, ?_⟩
          cases settled <;> simp [preparation, off]
      | @limited config on =>
          refine ⟨projectId, config.quota, ?_⟩
          cases settled <;> simp [preparation, on]

theorem once (h : Approval operator r t result) :
    (asked t).Nodup ∨ ∃ steps, asked t = steps ++ [askCheck r] ∧ steps.Nodup := by
  obtain ⟨projectId, quota, order, -⟩ := h.ordered
  have apart : (preparation r projectId quota ++ [askWrite r, askNotice operator r]).Nodup := by
    unfold preparation
    split <;> simp
  rcases order with part | lost
  · exact .inl (apart.sublist part.sublist)
  · refine .inr ⟨preparation r projectId quota ++ [askWrite r], by simp [lost], ?_⟩
    exact apart.sublist (.append (.refl _) (.cons_cons _ (List.nil_sublist _)))

theorem limited (h : Approval operator r t result) {id : Int}
    (made : ⟨askProject r, .ok id⟩ ∈ t) : ∃ config : Config, ⟨Ask.settings, config⟩ ∈ t ∧
      (askQuota id config.quota ∈ asked t ↔ config.quota.enabledPerProject = true) := by
  cases h with
  | refused examined => cases examined <;> simp at made
  | noProject examined =>
      obtain ⟨-, current, -, rfl⟩ := examined.of_ok
      simp at made
  | noQuota examined limited =>
      obtain ⟨-, current, -, rfl⟩ := examined.of_ok
      cases limited with
      | @failed config _ on =>
          obtain rfl : id = _ := by simpa using made
          exact ⟨config, by simp, by simp [on]⟩
  | settled examined limited settled =>
      obtain ⟨-, current, -, rfl⟩ := examined.of_ok
      cases limited with
      | @unlimited config off => exact ⟨config, by simp, by cases settled <;> simp [off]⟩
      | @limited config on =>
          obtain rfl : id = _ := by cases settled <;> simpa using made
          exact ⟨config, by simp, by simp [on]⟩

theorem failures (h : Approval operator r t result) :
    (∀ e, ⟨askProject r, .error e⟩ ∈ t →
      result = .error (.dependency .provision none e) ∧ asked t = [askCheck r, askProject r]) ∧
    (∀ reference limits e, ⟨Ask.call (.createQuota reference limits), .error e⟩ ∈ t →
      ∃ projectId, ⟨askProject r, .ok projectId⟩ ∈ t ∧
        result = .error (.dependency .quota (some projectId) e) ∧
        asked t = [askCheck r, askProject r, .settings, .call (.createQuota reference limits)]) ∧
    (askWrite r ∈ asked t ↔
      (∃ id, ⟨askProject r, .ok id⟩ ∈ t) ∧
        ∀ reference limits e, ⟨Ask.call (.createQuota reference limits), .error e⟩ ∉ t) ∧
    (result = .ok () → askWrite r ∈ asked t) ∧
    ∀ operator' a, Ask.announce operator' a ∈ asked t →
      result = .ok () ∧ operator' = operator ∧ a = .approved (.ofRequest r operator) := by
  cases h with
  | refused examined => cases examined <;> simp
  | noProject examined =>
      obtain ⟨-, current, -, rfl⟩ := examined.of_ok
      simp
  | noQuota examined limited =>
      obtain ⟨-, current, -, rfl⟩ := examined.of_ok
      cases limited
      refine ⟨by simp, ?_, by simp, by simp, by simp⟩
      intro reference limits e failed
      obtain ⟨rfl, rfl, rfl⟩ : reference = _ ∧ limits = _ ∧ e = _ := by simpa using failed
      exact ⟨_, by simp, rfl, rfl⟩
  | settled examined limited settled =>
      obtain ⟨-, current, -, rfl⟩ := examined.of_ok
      cases limited <;> cases settled <;> simp

variable {before after : List (Exchange Ask.interface)}

variable (answered : ∀ n e, t[n]? = some e → e.answer = (env n).answer e.query)
include answered

end Approval

end Workflow
end ProjectDesk
