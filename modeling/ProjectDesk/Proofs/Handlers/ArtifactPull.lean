import ProjectDesk.Handlers.ArtifactPull
import ProjectDesk.Proofs.Program.Attended
import ProjectDesk.Proofs.Program.InTurns

/-!
The two updates that a pull is kept by, made at the same time. Whichever call goes before which,
what is asked for an update is settled by the event, by its own switch and by its own answers; the
other update has no part in it.
-/

namespace ProjectDesk

/-- What is kept of a pull. -/
inductive PullUpdate where
  | time
  | count
  deriving DecidableEq, Repr

namespace PullUpdate

def isDisabled (switches : ArtifactEventConfig) : PullUpdate → Bool
  | .time => switches.pullTimeDisabled
  | .count => switches.pullCountDisabled

def record (event : ArtifactEvent) : PullUpdate → Task Unit
  | .time => Handlers.recordPullTime event
  | .count => Handlers.recordPullCount event

def task (switches : ArtifactEventConfig) (event : ArtifactEvent) (u : PullUpdate) : Task Unit :=
  if u.isDisabled switches then return () else u.record event

/-- The update that is asked for. -/
def ofErrand? : Errand → Option PullUpdate
  | .call (.findTag _ _) | .call (.updatePullTime _ _ _) => some .time
  | .call (.addPullCount _) => some .count
  | _ => none

/-- The part of what was exchanged that is an update's. -/
def part (u : PullUpdate) (t : List (Exchange Errand.interface)) :
    List (Exchange Errand.interface) :=
  t.filter fun e => ofErrand? e.query == some u

/-- All that is exchanged for an update, by the event and by whether it is switched off. -/
inductive Carried (event : ArtifactEvent) :
    PullUpdate → Bool → List (Exchange Errand.interface) → Prop
  | disabled (u : PullUpdate) : Carried event u true []
  | untagged (tags : event.tags = []) (answer : Except CollaboratorError Unit) :
      Carried event .time false
        [⟨Errand.call (.updatePullTime event.artifact.id none event.occurAt), answer⟩]
  | tagged {tag : String} {others : List String} (tags : event.tags = tag :: others)
      (found : Except CollaboratorError (Option Int)) (answer : Except CollaboratorError Unit) :
      Carried event .time false
        [⟨Errand.call (.findTag event.artifact.id tag), found⟩,
          ⟨Errand.call (.updatePullTime event.artifact.id found.toOption.join event.occurAt),
            answer⟩]
  | counted (answer : Except CollaboratorError Unit) :
      Carried event .count false
        [⟨Errand.call (.addPullCount event.artifact.repositoryId), answer⟩]

/-- Where the same is asked in both, the same is answered. -/
def Alike (t t' : List (Exchange Errand.interface)) : Prop :=
  ∀ e ∈ t, ∀ e' ∈ t', e.query = e'.query → e = e'

variable {event : ArtifactEvent} {u v : PullUpdate} {off : Bool}
  {t t₁ t₂ t' : List (Exchange Errand.interface)}

theorem alike_of_answers (answers : (q : Errand) → q.Answer)
    (h : ∀ e ∈ t, e.answer = answers e.query) (h' : ∀ e ∈ t', e.answer = answers e.query) :
    Alike t t' := by
  rintro ⟨q, a⟩ he ⟨_, a'⟩ he' rfl
  exact congrArg (Exchange.mk q) ((h _ he).trans (h' _ he').symm)

theorem part_eq (merged : Merged t₁ t₂ t) (mine : ∀ e ∈ t₁, ofErrand? e.query = some u)
    (others : ∀ e ∈ t₂, ofErrand? e.query = some v) (apart : v ≠ u) : u.part t = t₁ := by
  refine merged.filter_eq_left (fun e he => ?_) fun e he => ?_
  · rw [mine e he]
    exact beq_self_eq_true _
  · rw [others e he]
    exact beq_false_of_ne fun same => apart (Option.some.inj same)

theorem Carried.mine (h : Carried event u off t) : ∀ e ∈ t, ofErrand? e.query = some u := by
  cases h <;> simp [ofErrand?]

/-- Nothing but its own answers decides how an update goes on. -/
theorem Carried.unique (h : Carried event u off t) (h' : Carried event u off t') (alike : Alike t t') :
    t = t' := by
  cases h with
  | disabled =>
      cases h'
      rfl
  | counted answer =>
      cases h' with
      | counted answer' =>
          cases alike _ (.head _) _ (.head _) rfl
          rfl
  | untagged bare answer =>
      cases h' with
      | untagged _ answer' =>
          cases alike _ (.head _) _ (.head _) rfl
          rfl
      | tagged tags => cases bare.symm.trans tags
  | tagged tags found answer =>
      cases h' with
      | untagged bare => cases bare.symm.trans tags
      | tagged tags' found' answer' =>
          cases tags.symm.trans tags'
          cases alike _ (.head _) _ (.head _) rfl
          cases alike _ (.tail _ (.head _)) _ (.tail _ (.head _)) rfl
          rfl

/-- Every answer is taken, be it a failure. -/
theorem task_ensures (switches : ArtifactEventConfig) (event : ArtifactEvent) (u : PullUpdate) :
    (u.task switches event).run.Ensures fun t result =>
      result = .ok () ∧ Carried event u (u.isDisabled switches) t := by
  unfold task
  cases u.isDisabled switches with
  | true => exact ⟨rfl, .disabled u⟩
  | false =>
      cases u with
      | count => exact fun answer => ⟨rfl, .counted answer⟩
      | time =>
          show (Handlers.recordPullTime event).run.Ensures _
          unfold Handlers.recordPullTime Handlers.pulledTag
          split
          · rename_i bare
            exact fun answer => ⟨rfl, .untagged bare answer⟩
          · rename_i tags
            intro found
            cases found with
            | ok id => exact fun answer => ⟨rfl, .tagged tags (.ok id) answer⟩
            | error e => exact fun answer => ⟨rfl, .tagged tags (.error e) answer⟩

/-- All of it can come to pass. -/
theorem Carried.leads {switches : ArtifactEventConfig}
    (h : Carried event u (u.isDisabled switches) t) :
    (u.task switches event).run.Leads t (.done (.ok ())) := by
  have asked (c : Call) {next : c.Answer → Program Errand.interface (Except HandlerError Unit)}
      (answer : c.Answer) {t : List (Exchange Errand.interface)}
      (rest : (next answer).Leads t (.done (.ok ()))) :
      (Program.ask (I := Errand.interface) (.call c) next).Leads (⟨Errand.call c, answer⟩ :: t)
        (.done (.ok ())) :=
    Program.Leads.asked (I := Errand.interface) (q := .call c) answer rest
  unfold task
  generalize u.isDisabled switches = off at h
  cases h with
  | disabled => exact .here _
  | counted answer => exact asked (.addPullCount _) answer (.here _)
  | untagged bare answer =>
      show (Handlers.recordPullTime event).run.Leads _ _
      unfold Handlers.recordPullTime Handlers.pulledTag
      rw [bare]
      exact asked (.updatePullTime _ _ _) answer (.here _)
  | tagged tags found answer =>
      show (Handlers.recordPullTime event).run.Leads _ _
      unfold Handlers.recordPullTime Handlers.pulledTag
      rw [tags]
      refine asked (.findTag _ _) found ?_
      cases found with
      | ok _ | error _ => exact asked (.updatePullTime _ _ _) answer (.here _)

theorem merged_parts (whole : ∀ e ∈ t, ∃ u, ofErrand? e.query = some u) :
    Merged (PullUpdate.time.part t) (PullUpdate.count.part t) t := by
  induction t with
  | nil => exact .nil
  | cons e t ih =>
      obtain ⟨⟨u, mine⟩, others⟩ := List.forall_mem_cons.mp whole
      unfold part at ih ⊢
      cases u with
      | time =>
          rw [List.filter_cons_of_pos (by simp [mine]), List.filter_cons_of_neg (by simp [mine])]
          exact .left e (ih others)
      | count =>
          rw [List.filter_cons_of_neg (by simp [mine]), List.filter_cons_of_pos (by simp [mine])]
          exact .right e (ih others)

end PullUpdate

namespace Handlers

open PullUpdate

/-- Both updates at the same time, with any turns. -/
def updatesInTurns (turns : Nat → Bool) (switches : ArtifactEventConfig) (event : ArtifactEvent) :
    Task Unit :=
  ExceptT.mk do
    let both ← (PullUpdate.time.task switches event).run.inTurns turns
      (PullUpdate.count.task switches event).run
    return both.1.bind fun _ => both.2

def artifactPullInTurns (turns : Nat → Bool) : DomainEvent → Task Unit
  | .pullArtifact event => do
      let switches := (← Task.settings).artifactEvents
      updatesInTurns turns switches event
  | _ => return ()

theorem updatesInTurns_first (switches : ArtifactEventConfig) (event : ArtifactEvent) :
    updatesInTurns (fun _ => true) switches event = (do
      PullUpdate.time.task switches event
      PullUpdate.count.task switches event) := by
  unfold updatesInTurns ExceptT.mk
  rw [Program.inTurns_first]
  simp only [bind_assoc, pure_bind]
  refine ((task_ensures switches event .time).mono fun _ result h => ?_).bind_congr
  rw [h.1]
  exact bind_pure _

theorem artifactPull_eq (event : ArtifactEvent) :
    artifactPull (.pullArtifact event) = (do
      let switches := (← Task.settings).artifactEvents
      PullUpdate.time.task switches event
      PullUpdate.count.task switches event) := by
  refine congrArg (Task.settings >>= ·) (funext fun config => ?_)
  obtain ⟨timeDisabled, countDisabled⟩ := config.artifactEvents
  cases timeDisabled <;> rfl

/-- One way to take turns is the handler's own: the time, then the count. -/
theorem artifactPullInTurns_first : artifactPullInTurns (fun _ => true) = artifactPull := by
  funext e
  cases e with
  | pullArtifact event =>
      rw [artifactPull_eq]
      exact congrArg (Task.settings >>= ·) (funext fun config => updatesInTurns_first _ event)
  | pushArtifact _ | approveRequest _ | rejectRequest _ | hook _ => rfl

/-- What is to be said of a pull: of the calls that were made for it, with their answers, and of the
result. -/
structure Recorded (event : ArtifactEvent) (switches : ArtifactEventConfig)
    (calls : List (Exchange Errand.interface)) (result : Except HandlerError Unit) : Prop where
  returned : result = .ok ()
  carried : ∀ u, Carried event u (u.isDisabled switches) (u.part calls)
  /-- No other call is made. -/
  whole : ∀ e ∈ calls, ∃ u, ofErrand? e.query = some u

theorem updatesInTurns_ensures (turns : Nat → Bool) (switches : ArtifactEventConfig)
    (event : ArtifactEvent) :
    (updatesInTurns turns switches event).run.Ensures (Recorded event switches) := by
  refine Program.ensures_bind.mpr ((Program.ensures_inTurns
    (task_ensures switches event .time) (task_ensures switches event .count) turns).mono ?_)
  rintro t ⟨first, second⟩ ⟨t₁, t₂, merged, ⟨rfl, time⟩, ⟨rfl, count⟩⟩
  show Recorded event switches (t ++ []) (.ok ())
  rw [List.append_nil]
  refine ⟨rfl, fun u => ?_, fun e he => ?_⟩
  · cases u with
    | time => rwa [part_eq merged time.mine count.mine (by decide)]
    | count => rwa [part_eq merged.swap count.mine time.mine (by decide)]
  · exact (merged.mem he).elim (fun h => ⟨_, time.mine e h⟩) fun h => ⟨_, count.mine e h⟩

/-- This is all that can be said: calls of which it is true are made in some turns. -/
theorem recorded_iff_leads {event : ArtifactEvent} {config : Config}
    {calls : List (Exchange Errand.interface)} {result : Except HandlerError Unit} :
    Recorded event config.artifactEvents calls result ↔
      ∃ turns, (artifactPullInTurns turns (.pullArtifact event)).run.Leads
        (⟨Errand.settings, config⟩ :: calls) (.done result) := by
  constructor
  · rintro ⟨rfl, carried, whole⟩
    obtain ⟨turns, leads⟩ := Program.exists_turns (merged_parts whole) (carried .time).leads
      (carried .count).leads
    refine ⟨turns, Program.Leads.asked (I := Errand.interface) (q := .settings) config ?_⟩
    rw [← List.append_nil calls]
    exact leads.bind (.here _)
  · rintro ⟨turns, leads⟩
    cases leads with
    | asked _ rest => exact (updatesInTurns_ensures turns _ event).of_leads rest

theorem attend_artifactPullInTurns (turns : Nat → Bool) (event : ArtifactEvent)
    (env : Nat → (q : Errand) → q.Answer) :
    ∃ calls result, (artifactPullInTurns turns (.pullArtifact event)).run.attend env =
        (⟨Errand.settings, env 0 .settings⟩ :: calls, result) ∧
      Recorded event (env 0 .settings).artifactEvents calls result :=
  ⟨_, _, rfl, (updatesInTurns_ensures turns _ event).attend fun n => env (n + 1)⟩

/-- An update comes to the same calls in any two ways to handle a pull in which its own switch and
the answers to its own calls are the same. -/
theorem pull_updates_independent :
    artifactPullInTurns (fun _ => true) = artifactPull ∧
    (∀ (turns : Nat → Bool) (event : ArtifactEvent) (env : Nat → (q : Errand) → q.Answer),
      ∃ calls result, (artifactPullInTurns turns (.pullArtifact event)).run.attend env =
          (⟨Errand.settings, env 0 .settings⟩ :: calls, result) ∧
        Recorded event (env 0 .settings).artifactEvents calls result) ∧
    (∀ (event : ArtifactEvent) (config : Config) (calls : List (Exchange Errand.interface))
      (result : Except HandlerError Unit), Recorded event config.artifactEvents calls result ↔
        ∃ turns, (artifactPullInTurns turns (.pullArtifact event)).run.Leads
          (⟨Errand.settings, config⟩ :: calls) (.done result)) ∧
    (∀ (turns turns' : Nat → Bool) (event : ArtifactEvent)
      (env env' : Nat → (q : Errand) → q.Answer) (u : PullUpdate),
      let t := u.part ((artifactPullInTurns turns (.pullArtifact event)).run.attend env).1
      let t' := u.part ((artifactPullInTurns turns' (.pullArtifact event)).run.attend env').1
      u.isDisabled (env 0 .settings).artifactEvents =
          u.isDisabled (env' 0 .settings).artifactEvents →
        Alike t t' → t = t') ∧
    ∀ (turns : Nat → Bool) (e : DomainEvent), (∀ event, e ≠ .pullArtifact event) →
      (artifactPullInTurns turns e).run = .done (.ok ()) := by
  refine ⟨artifactPullInTurns_first, attend_artifactPullInTurns,
    fun _ _ _ _ => recorded_iff_leads, ?_, fun turns e other => ?_⟩
  · intro turns turns' event env env' u t t' same alike
    obtain ⟨calls, result, attended, recorded⟩ := attend_artifactPullInTurns turns event env
    obtain ⟨calls', result', attended', recorded'⟩ := attend_artifactPullInTurns turns' event env'
    have carried : Carried event u (u.isDisabled (env 0 .settings).artifactEvents) t := by
      simpa [t, attended, part, ofErrand?] using recorded.carried u
    have carried' : Carried event u (u.isDisabled (env' 0 .settings).artifactEvents) t' := by
      simpa [t', attended', part, ofErrand?] using recorded'.carried u
    exact carried.unique (same ▸ carried') alike
  · cases e with
    | pullArtifact event => exact absurd rfl (other event)
    | pushArtifact _ | approveRequest _ | rejectRequest _ | hook _ => rfl

/-! Two ways to handle a pull by a tag. In one the count is asked for first and cannot be kept, in
the other it is switched off. -/

def taggedPull : ArtifactEvent :=
  ⟨Topic.pullArtifact, ⟨5, 42, "library/nginx", "sha256:abc"⟩, ["latest", "1.27"], "robot",
    ⟨⟨2026, 6, 1⟩, 12, 0, 0, 0⟩⟩

/-- A desk that knows the tag but cannot keep anything. -/
def failingDesk (config : Config) : (q : Errand) → q.Answer
  | .settings => config
  | .call (.findTag _ _) => .ok (some 77)
  | .call (.createProject _ _) | .call (.createQuota _ _) | .call (.findUser _)
  | .call (.sendMail _ _) | .call (.submitJob _) | .call (.updatePullTime _ _ _)
  | .call (.addPullCount _) | .call (.autoScan _ _) => .error (.failed "down")

theorem pull_updates_independent_tagged :
    let env : Nat → (q : Errand) → q.Answer := fun _ => failingDesk {}
    let uncounted : Config := { artifactEvents := { pullCountDisabled := true } }
    let env' : Nat → (q : Errand) → q.Answer := fun _ => failingDesk uncounted
    let t := ((artifactPullInTurns (fun _ => false) (.pullArtifact taggedPull)).run.attend env).1
    let t' := ((artifactPullInTurns (fun _ => true) (.pullArtifact taggedPull)).run.attend env').1
    t.map (·.query) = [Errand.settings, .call (.addPullCount 42), .call (.findTag 5 "latest"),
      .call (.updatePullTime 5 (some 77) taggedPull.occurAt)] ∧
    PullUpdate.time.isDisabled ({} : Config).artifactEvents =
      PullUpdate.time.isDisabled uncounted.artifactEvents ∧
    Alike (PullUpdate.time.part t) (PullUpdate.time.part t') ∧
    PullUpdate.time.part t = PullUpdate.time.part t' ∧
    PullUpdate.count.part t' = [] ∧
    (∀ event, DomainEvent.pushArtifact taggedPull ≠ .pullArtifact event) ∧
    (artifactPullInTurns (fun _ => false) (.pushArtifact taggedPull)).run = .done (.ok ()) := by
  intro env uncounted env' t t'
  obtain ⟨-, -, -, same, others⟩ := pull_updates_independent
  have alike : Alike (PullUpdate.time.part t) (PullUpdate.time.part t') := by
    refine alike_of_answers (failingDesk {}) ?_ ?_
    · rintro e (_ | ⟨_, _ | ⟨_, ⟨⟩⟩⟩) <;> rfl
    · rintro e (_ | ⟨_, _ | ⟨_, ⟨⟩⟩⟩) <;> rfl
  exact ⟨rfl, rfl, alike, same _ _ taggedPull env env' .time rfl alike, rfl, nofun,
    others _ _ nofun⟩

end Handlers
end ProjectDesk
