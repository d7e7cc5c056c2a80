import ProjectDesk.Handlers.RequestMail
import ProjectDesk.Proofs.Program.Attended

/-!
Events about decisions whose type is that of none. No mail is submitted about them, but the type is
looked at last: where mail is configured, such an event still fails if its owner is not found.
-/

namespace ProjectDesk.Handlers

/-- The type of no decision. -/
def IsUnknownType (eventType : String) : Prop :=
  eventType ≠ Topic.approveRequest ∧ eventType ≠ Topic.rejectRequest

variable {event : RequestEvent} {e : DomainEvent} {t : List (Exchange Errand.interface)}
  {result : Except HandlerError Unit}

theorem mailText_of_unknown (product : String) (owner : DirectoryUser)
    (unknown : IsUnknownType event.eventType) : mailText product owner event = none := by
  rw [mailText, if_neg unknown.1, if_neg unknown.2]

/-- What the look-up of the owner makes of such an event. -/
def lookedUp (event : RequestEvent) :
    Except CollaboratorError (Option DirectoryUser) → Except HandlerError Unit
  | .ok (some _) => .ok ()
  | .ok none =>
      .error (.collaborator (.failed ("owner " ++ Text.decimal event.ownerId ++ " not found")))
  | .error err => .error (.collaborator err)

theorem lookedUp_eq_ok_iff {found : Except CollaboratorError (Option DirectoryUser)} :
    lookedUp event found = .ok () ↔ ∃ owner, found = .ok (some owner) := by
  unfold lookedUp
  split
  · exact iff_of_true rfl ⟨_, rfl⟩
  · exact iff_of_false nofun nofun
  · exact iff_of_false nofun nofun

/-- All that can come of such an event: what is exchanged, and the result. -/
inductive Unmailed (event : RequestEvent) :
    List (Exchange Errand.interface) → Except HandlerError Unit → Prop
  | notConfigured (config : Config) (off : config.email.isConfigured = false) :
      Unmailed event [⟨Errand.settings, config⟩] (.ok ())
  | configured (config : Config) (on : config.email.isConfigured = true)
      (found : Except CollaboratorError (Option DirectoryUser)) :
      Unmailed event
        [⟨Errand.settings, config⟩, ⟨Errand.call (.findUser event.ownerId), found⟩]
        (lookedUp event found)

theorem mailDecision_unmailed (unknown : IsUnknownType event.eventType) :
    (mailDecision event).run.Ensures (Unmailed event) := by
  intro config
  change (ite (config.email.isConfigured = true) (findOwner event.ownerId >>= _) _ :
    Task Unit).run.Ensures _
  split
  · rename_i on
    intro found
    rcases found with err | _ | owner
    · exact .configured config on (.error err)
    · exact .configured config on (.ok none)
    · change (ite (Text.isBlankText owner.email = true) _ _ : Task Unit).run.Ensures _
      rw [mailText_of_unknown _ _ unknown]
      split <;> exact .configured config on (.ok (some owner))
  · rename_i off
    exact .notConfigured config (Bool.eq_false_iff.mpr off)

theorem requestMail_unmailed (about : e = .approveRequest event ∨ e = .rejectRequest event)
    (unknown : IsUnknownType event.eventType) : (requestMail e).run.Ensures (Unmailed event) := by
  rcases about with rfl | rfl <;> exact mailDecision_unmailed unknown

theorem Unmailed.not_sent (h : Unmailed event t result) {x : Exchange Errand.interface} (hx : x ∈ t)
    (settings : SmtpSettings) (message : MailMessage) :
    x.query ≠ Errand.call (.sendMail settings message) := by
  intro sent
  cases h with
  | notConfigured _ _ =>
      rw [List.mem_singleton.mp hx] at sent
      cases sent
  | configured _ _ _ =>
      rcases List.mem_cons.mp hx with rfl | hx
      · cases sent
      · rw [List.mem_singleton.mp hx] at sent
        cases sent

theorem result_of_unknown (about : e = .approveRequest event ∨ e = .rejectRequest event)
    (unknown : IsUnknownType event.eventType) (env : Nat → (q : Errand) → q.Answer) :
    ((requestMail e).run.attend env).2 =
      if (env 0 .settings).email.isConfigured then
        lookedUp event (env 1 (.call (.findUser event.ownerId)))
      else .ok () := by
  have unmailed := (requestMail_unmailed about unknown).attend env
  have answers (n : Nat) (x : Exchange Errand.interface)
      (h : ((requestMail e).run.attend env).1[n]? = some x) : x.answer = env n x.query :=
    Program.answer_attend (I := Errand.interface) env h
  -- What was exchanged shows whose answers led to the result.
  generalize ((requestMail e).run.attend env).1 = t at unmailed answers
  generalize ((requestMail e).run.attend env).2 = result at unmailed
  cases unmailed with
  | notConfigured config off =>
      have settings : config = env 0 .settings := answers 0 _ rfl
      rw [settings] at off
      exact (if_neg (Bool.eq_false_iff.mp off)).symm
  | configured config on found =>
      have settings : config = env 0 .settings := answers 0 _ rfl
      have same : found = env 1 (.call (.findUser event.ownerId)) := answers 1 _ rfl
      rw [settings] at on
      rw [same]
      exact (if_pos on).symm

/-- Whatever the surroundings answer, no mail is submitted; the event fails exactly where mail is
configured and no owner is found. -/
theorem unknown_type_unmailed (about : e = .approveRequest event ∨ e = .rejectRequest event)
    (unknown : IsUnknownType event.eventType) (env : Nat → (q : Errand) → q.Answer) :
    let isConfigured := (env 0 .settings).email.isConfigured
    let found := env 1 (.call (.findUser event.ownerId))
    let result := ((requestMail e).run.attend env).2
    (∀ x ∈ ((requestMail e).run.attend env).1, ∀ settings message,
      x.query ≠ Errand.call (.sendMail settings message)) ∧
    (isConfigured = false → result = .ok ()) ∧
    (isConfigured = true → result = lookedUp event found) ∧
    (result = .ok () ↔ isConfigured = false ∨ ∃ owner, found = .ok (some owner)) := by
  intro isConfigured found result
  have outcome : result = if isConfigured then lookedUp event found else .ok () :=
    result_of_unknown about unknown env
  refine ⟨fun x => ((requestMail_unmailed about unknown).attend env).not_sent, ?_⟩
  rw [outcome]
  cases isConfigured with
  | false => exact ⟨fun _ => rfl, nofun, iff_of_true rfl (.inl rfl)⟩
  | true =>
      refine ⟨nofun, fun _ => rfl, lookedUp_eq_ok_iff.trans ?_⟩
      exact ⟨.inr, fun h => h.resolve_left (by decide)⟩

/-! Mail is configured, and the directory answers as is said. -/

def strangeEvent : RequestEvent :=
  ⟨"SOMETHING_ELSE", 1, "payments", 99, "root", ⟨⟨2024, 3, 5⟩, 6, 7, 8, 0⟩⟩

def mailDesk (found : Except CollaboratorError (Option DirectoryUser)) : (q : Errand) → q.Answer
  | .settings => { email := { host := "smtp.example.com", sender := "registry@example.com" } }
  | .call (.findUser _) => found
  | .call (.createProject _ _) | .call (.createQuota _ _) | .call (.findTag _ _)
  | .call (.sendMail _ _) | .call (.submitJob _) | .call (.updatePullTime _ _ _)
  | .call (.addPullCount _) | .call (.autoScan _ _) => .error (.failed "down")

theorem unknown_type_unmailed_owned :
    let owner : DirectoryUser := ⟨99, "alice", "alice@example.com"⟩
    let env : Nat → (q : Errand) → q.Answer := fun _ => mailDesk (.ok (some owner))
    let (t, result) := (requestMail (.rejectRequest strangeEvent)).run.attend env
    IsUnknownType strangeEvent.eventType ∧ result = .ok () ∧
      ∀ x ∈ t, ∀ settings message, x.query ≠ Errand.call (.sendMail settings message) := by
  intro owner env
  have unknown : IsUnknownType strangeEvent.eventType := by
    unfold IsUnknownType
    decide
  obtain ⟨silent, -, -, ok⟩ := unknown_type_unmailed (.inr rfl) unknown env
  exact ⟨unknown, ok.mpr (.inr ⟨owner, rfl⟩), silent⟩

/-- The type is unknown, and yet the event fails, for its owner is unknown as well. -/
theorem unknown_type_fails : IsUnknownType strangeEvent.eventType ∧
    ((requestMail (.approveRequest strangeEvent)).run.attend fun _ => mailDesk (.ok none)).2 =
      .error (.collaborator (.failed "owner 99 not found")) := by
  constructor
  · unfold IsUnknownType
    decide
  · rfl

end ProjectDesk.Handlers
