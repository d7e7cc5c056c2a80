import ProjectDesk.Proofs.Dispatch.Unbroken
import ProjectDesk.Startup.Wiring

/-!
Mail about decisions. In surroundings where the configuration and the directory stay as they are,
an event comes to the same mail whenever it is handled, and it is submitted once.
-/

namespace ProjectDesk

variable {σ α β : Type}

/-- Mail as it is submitted. -/
abbrev Submission : Type := SmtpSettings × MailMessage

/-- Whom the directory finds by an id. -/
abbrev Directory : Type := Int → Except CollaboratorError (Option DirectoryUser)

/-- Surroundings of handlers in which the configuration and the directory stay as they are, from any
steady state on, and in which the mail that was submitted can be seen. -/
structure Mailroom (σ : Type) where
  respond : (e : Errand) → σ → e.Answer × σ
  config : Config
  directory : Directory
  Steady : σ → Prop
  sent : σ → List Submission
  steady_respond : ∀ (e : Errand) (w : σ), Steady w → Steady (respond e w).2
  settings : ∀ w : σ, Steady w → respond .settings w = (config, w)
  findUser : ∀ (id : Int) (w : σ), Steady w → (respond (.call (.findUser id)) w).1 = directory id
  sent_findUser : ∀ (id : Int) (w : σ), sent (respond (.call (.findUser id)) w).2 = sent w
  sent_sendMail : ∀ (settings : SmtpSettings) (message : MailMessage) (w : σ),
    sent (respond (.call (.sendMail settings message)) w).2 = sent w ++ [(settings, message)]

namespace Task

variable {room : Mailroom σ} {post : List Submission → Except HandlerError α → Prop}

/-- From any steady state, the mail that the task submits and its result are as required. -/
def Sends (room : Mailroom σ) (post : List Submission → Except HandlerError α → Prop)
    (task : Task α) : Prop :=
  ∀ w, room.Steady w → ∃ mails result w', task.run.run room.respond w = (result, w') ∧
    room.Steady w' ∧ room.sent w' = room.sent w ++ mails ∧ post mails result

theorem sends_pure {a : α} (h : post [] (.ok a)) : (pure a : Task α).Sends room post :=
  fun w steady => ⟨[], .ok a, w, rfl, steady, (List.append_nil _).symm, h⟩

theorem sends_throw {e : HandlerError} (h : post [] (.error e)) :
    (throw e : Task α).Sends room post :=
  fun w steady => ⟨[], .error e, w, rfl, steady, (List.append_nil _).symm, h⟩

/-- What a task has come to decides whether the next one is begun. -/
theorem sends_bind {post : List Submission → Except HandlerError β → Prop} {first : Task α}
    {next : α → Task β}
    (h : first.Sends room fun mails result =>
      match result with
      | .ok a => (next a).Sends room fun more => post (mails ++ more)
      | .error e => post mails (.error e)) :
    (first >>= next).Sends room post := by
  intro w steady
  obtain ⟨mails, result, w', ran, steady', sent, h⟩ := h w steady
  have both := Program.run_bind room.respond first.run (ExceptT.bindCont next) w
  rw [ran] at both
  cases result with
  | error e => exact ⟨mails, .error e, w', both, steady', sent, h⟩
  | ok a =>
      obtain ⟨more, result, w'', ran', steady'', sent', h⟩ := h w' steady'
      refine ⟨mails ++ more, result, w'', both.trans ran', steady'', ?_, h⟩
      rw [sent', sent, List.append_assoc]

theorem sends_settings {post : List Submission → Except HandlerError Config → Prop}
    (h : post [] (.ok room.config)) : settings.Sends room post := by
  intro w steady
  have ran : settings.run.run room.respond w =
      (.ok (room.respond .settings w).1, (room.respond .settings w).2) := rfl
  rw [room.settings w steady] at ran
  exact ⟨[], _, w, ran, steady, (List.append_nil _).symm, h⟩

theorem run_call (respond : (e : Errand) → σ → e.Answer × σ) (c : Call) (w : σ) :
    (call c).run.run respond w =
      ((respond (.call c) w).1.mapError .collaborator, (respond (.call c) w).2) := by
  refine (Program.run_bind respond (Program.query (I := Errand.interface) (.call c)) _ w).trans ?_
  simp only [Program.query, Program.run]
  obtain ⟨answer, w'⟩ := respond (.call c) w
  cases answer <;> rfl

theorem sends_findUser {id : Int}
    {post : List Submission → Except HandlerError (Option DirectoryUser) → Prop}
    (h : post [] ((room.directory id).mapError .collaborator)) :
    (call (.findUser id)).Sends room post := by
  intro w steady
  have ran := run_call room.respond (.findUser id) w
  rw [room.findUser id w steady] at ran
  refine ⟨[], _, _, ran, room.steady_respond _ w steady, ?_, h⟩
  rw [room.sent_findUser, List.append_nil]

/-- Submitted is submitted, whatever becomes of it. -/
theorem sends_sendMail {settings : SmtpSettings} {message : MailMessage}
    {post : List Submission → Except HandlerError Unit → Prop}
    (h : ∀ result, post [(settings, message)] result) :
    (call (.sendMail settings message)).Sends room post := by
  intro w steady
  exact ⟨_, _, _, run_call room.respond _ w, room.steady_respond _ w steady,
    room.sent_sendMail settings message w, h _⟩

end Task

namespace Handlers

/-- The mail to an owner about a decision. -/
def mailTo (config : Config) (event : RequestEvent) (owner : DirectoryUser) : List Submission :=
  if Text.isBlankText owner.email then []
  else (mailText config.productName owner event).toList.map fun text =>
    (config.email.smtpSettings mailTimeout, ⟨[owner.email], text.1, text.2⟩)

/-- The mail about a decision. -/
def mailAbout (config : Config) (directory : Directory) (event : RequestEvent) :
    List Submission :=
  if config.email.isConfigured then
    match directory event.ownerId with
    | .ok (some owner) => mailTo config event owner
    | _ => []
  else []

theorem mailDecision_sends (room : Mailroom σ) (event : RequestEvent) :
    (mailDecision event).Sends room fun mails _ =>
      mails = mailAbout room.config room.directory event := by
  unfold mailDecision findOwner mailAbout
  refine Task.sends_bind (Task.sends_settings ?_)
  dsimp only
  by_cases configured : room.config.email.isConfigured = true
  · rw [if_pos configured, if_pos configured]
    refine Task.sends_bind (Task.sends_bind (Task.sends_findUser ?_))
    cases room.directory event.ownerId with
    | error e => rfl
    | ok found =>
        cases found with
        | none => exact Task.sends_throw rfl
        | some owner =>
            refine Task.sends_pure ?_
            dsimp only
            unfold mailTo
            by_cases blank : Text.isBlankText owner.email = true
            · rw [if_pos blank, if_pos blank]
              exact Task.sends_pure rfl
            · rw [if_neg blank, if_neg blank]
              cases mailText room.config.productName owner event with
              | none => exact Task.sends_pure rfl
              | some text => exact Task.sends_sendMail fun _ => rfl
  · rw [if_neg configured, if_neg configured]
    exact Task.sends_pure rfl

def mailOf (config : Config) (directory : Directory) : DomainEvent → List Submission
  | .approveRequest event | .rejectRequest event => mailAbout config directory event
  | _ => []

theorem requestMail_sends (room : Mailroom σ) (event : DomainEvent) :
    (requestMail event).Sends room fun mails _ =>
      mails = mailOf room.config room.directory event := by
  cases event with
  | approveRequest event | rejectRequest event => exact mailDecision_sends room event
  | pullArtifact _ | pushArtifact _ | hook _ => exact Task.sends_pure rfl

end Handlers

/-- One delivery after the other to the handler that sends the mail. -/
theorem Mailroom.sent_act (room : Mailroom σ) {ds : List (Delivery σ)}
    (all : ∀ d ∈ ds, d.subscriber.handler = Startup.Role.handler room.respond .requestMail) {w : σ}
    (steady : room.Steady w) :
    room.Steady (ds.foldl Delivery.act w) ∧
      room.sent (ds.foldl Delivery.act w) =
        room.sent w ++ ds.flatMap fun d =>
          Handlers.mailOf room.config room.directory d.occasion.event := by
  induction ds generalizing w with
  | nil => exact ⟨steady, (List.append_nil _).symm⟩
  | cons d ds ih =>
      obtain ⟨mine, others⟩ := List.forall_mem_cons.mp all
      obtain ⟨mails, result, w', ran, steady', sent, rfl⟩ :=
        Handlers.requestMail_sends room d.occasion.event w steady
      have acted : Delivery.act w d = w' := by
        rw [Delivery.act, mine]
        exact congrArg Prod.snd ran
      obtain ⟨last, all⟩ := ih others steady'
      rw [List.foldl_cons, acted]
      refine ⟨last, ?_⟩
      rw [all, sent, List.flatMap_cons, List.append_assoc]

end ProjectDesk
