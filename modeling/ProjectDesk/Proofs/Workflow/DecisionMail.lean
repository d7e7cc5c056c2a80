import ProjectDesk.Proofs.Dispatch.Subscription
import ProjectDesk.Proofs.Rehearsal.Mailroom
import ProjectDesk.Proofs.Workflow.Granted
import ProjectDesk.Proofs.Workflow.Premises

/-!
Decisions and mail. Over the handlers that every desk starts with, each decision that was granted
comes to one mail to the owner of the request, if there is somewhere to send it, and there is no
other mail.
-/

namespace ProjectDesk

open Workflow

variable {σ : Type}

namespace Startup

variable {respond : (e : Errand) → σ → e.Answer × σ} {config : Config} {route : JobRoute}
  {world : σ} {start : Dispatcher σ}

/-- The one instance that hears of decisions. -/
def mailer (respond : (e : Errand) → σ → e.Answer × σ) : HandlerInstance σ :=
  ⟨2, Role.handler respond .requestMail⟩

theorem registrations_decisions (respond : (e : Errand) → σ → e.Answer × σ) (route : JobRoute)
    {topic : String} (decides : topic = Topic.approveRequest ∨ topic = Topic.rejectRequest) :
    ((registrations (Role.handler respond) route).filter (·.topic == topic)).map (·.subscriber) =
      [mailer respond] := by
  rcases decides with rfl | rfl <;> cases route <;> rfl

theorem defaultDispatcher?_eq_some
    (made : defaultDispatcher? config route respond world = some start) :
    Course.Balanced { dispatcher := start } ∧
      Course.Performed config.dispatcher.handlerTimeout world { dispatcher := start } ∧
      ∀ topic, topic = Topic.approveRequest ∨ topic = Topic.rejectRequest →
        (start.registry.lookup topic).map (·.subscriber) = [mailer respond] := by
  refine ⟨Course.balanced_of_new? made, Course.performed_of_new? made, fun topic decides => ?_⟩
  obtain ⟨executor, -, made⟩ := Option.bind_eq_some_iff.mp made
  cases made
  exact (Registry.lookup_build _ topic).trans (registrations_decisions respond route decides)

end Startup

namespace Ruling

/-- The mail to the owner. -/
def mail (product : String) (owner : DirectoryUser) (x : Ruling) : MailMessage :=
  match x.decision with
  | .rejected =>
      ⟨[owner.email], "[" ++ product ++ "] Rejected request",
        "Sorry " ++ owner.username ++ ". Please contact admin " ++ x.operator ++ "."⟩
  | _ =>
      ⟨[owner.email], "[" ++ product ++ "] Approved request",
        "Hey " ++ owner.username ++ "! The project named " ++ x.request.name ++
          " has been created by request."⟩

/-- An owner who cannot be found, or has no address, gets none. -/
def mail? (product : String) (directory : Directory) (x : Ruling) : Option MailMessage :=
  match directory x.request.ownerId with
  | .ok (some owner) =>
      if Text.isBlankText owner.email then none else some (x.mail product owner)
  | _ => none

/-- Without somewhere to submit it there is no mail either. -/
def submission? (config : Config) (directory : Directory) (x : Ruling) : Option Submission :=
  if config.email.isConfigured then
    (x.mail? config.productName directory).map (config.email.smtpSettings Handlers.mailTimeout, ·)
  else none

/-- What is announced, as an event. -/
def event (now : Time.Instant) (x : Ruling) : RequestEvent :=
  (DecisionNote.ofRequest x.request x.operator).event x.announcement.topic now

theorem mailText_event (product : String) (owner : DirectoryUser) (now : Time.Instant)
    (x : Ruling) :
    (Handlers.mailText product owner (x.event now)).map
        (fun text => (⟨[owner.email], text.1, text.2⟩ : MailMessage)) =
      some (x.mail product owner) := by
  obtain ⟨operator, r, decision⟩ := x
  cases decision <;> rfl

/-- What is announced comes to the mail that the owner is to get. -/
theorem mailOf_occasion (config : Config) (directory : Directory) (now : Time.Instant)
    (x : Ruling) :
    Handlers.mailOf config directory (x.announcement.occasion x.operator now).event =
      (x.submission? config directory).toList := by
  have announced : Handlers.mailOf config directory (x.announcement.occasion x.operator now).event =
      Handlers.mailAbout config directory (x.event now) := by
    obtain ⟨operator, r, decision⟩ := x
    cases decision <;> rfl
  have owned : (x.event now).ownerId = x.request.ownerId := rfl
  rw [announced, Handlers.mailAbout, submission?, mail?, owned]
  by_cases configured : config.email.isConfigured = true
  · rw [if_pos configured, if_pos configured]
    cases directory x.request.ownerId with
    | error e => rfl
    | ok found =>
        cases found with
        | none => rfl
        | some owner =>
            obtain ⟨text, written, same⟩ := Option.map_eq_some_iff.mp
              (x.mailText_event config.productName owner now)
            by_cases blank : Text.isBlankText owner.email = true
            · simp [Handlers.mailTo, blank]
            · simp [Handlers.mailTo, blank, written, same]
  · rw [if_neg configured, if_neg configured]
    rfl

theorem mailOf_occasions (config : Config) (directory : Directory) {xs : List Ruling}
    {occasions : List Occasion}
    (each : List.Forall₂ (fun x o => ∃ now, o = x.announcement.occasion x.operator now) xs
      occasions) :
    (occasions.flatMap fun o => Handlers.mailOf config directory o.event) =
      xs.filterMap (submission? config directory) := by
  rw [List.filterMap_eq_flatMap_toList]
  induction each with
  | nil => rfl
  | @cons x _ _ _ first _ ih =>
      obtain ⟨now, rfl⟩ := first
      rw [List.flatMap_cons, List.flatMap_cons, ih, x.mailOf_occasion config directory now]

end Ruling

namespace Premises.Reached

variable {admits : Floor → Order → Prop} {start : Dispatcher σ} {p : Premises σ} {room : Mailroom σ}

theorem published_topic (coherent : p.floor.Coherent) {o : Occasion}
    (ho : o ∈ p.floor.turns.filterMap Turn.published?) :
    o.topic = Topic.approveRequest ∨ o.topic = Topic.rejectRequest := by
  obtain ⟨t, ht, published⟩ := List.mem_filterMap.mp ho
  obtain ⟨⟨operator, a⟩, said, rfl⟩ := Option.map_eq_some_iff.mp published
  obtain ⟨x, won, rfl, rfl⟩ := coherent.granted_of_announcement ht said
  exact won.decision_cases.imp (fun h => h.2.1) fun h => h.2.1

theorem sent {route : Startup.JobRoute} {world : σ}
    (made : Startup.defaultDispatcher? room.config route room.respond world = some start)
    (steady : room.Steady world) (reached : Reached admits start p) :
    ∃ mails, room.sent p.course.dispatcher.drain.world = room.sent world ++ mails ∧
      mails.Perm (p.floor.granted.filterMap (Ruling.submission? room.config room.directory)) := by
  obtain ⟨balanced, performed, wired⟩ := Startup.defaultDispatcher?_eq_some made
  have coherent := reached.floor.coherent
  obtain ⟨begun, drained, delivered⟩ := (reached.regular balanced).drained balanced performed
  have once : (p.floor.turns.filterMap Turn.published?).flatMap (fun o =>
      (start.registry.lookup o.topic).map fun registered => (registered.subscriber, o)) =
        (p.floor.turns.filterMap Turn.published?).flatMap fun o =>
          [(Startup.mailer room.respond, o)] := by
    refine List.flatMap_congr fun o ho => ?_
    have one := congrArg (List.map (·, o)) (wired o.topic (published_topic coherent ho))
    rwa [List.map_map] at one
  rw [once] at delivered
  have all : ∀ d ∈ begun,
      d.subscriber.handler = Startup.Role.handler room.respond .requestMail := by
    intro d hd
    have known := delivered.subset (List.mem_map_of_mem hd)
    obtain ⟨o, -, same⟩ := List.mem_flatMap.mp known
    rw [(Prod.mk.inj (List.mem_singleton.mp same)).1]
    rfl
  obtain ⟨-, sent⟩ := room.sent_act all steady
  refine ⟨_, drained ▸ sent, ?_⟩
  obtain ⟨occasions, perm, each⟩ := coherent.published_granted
  have mails := delivered.flatMap_right fun d =>
    Handlers.mailOf room.config room.directory d.2.event
  simp only [List.flatMap_map, List.flatMap_assoc, List.flatMap_singleton] at mails
  refine mails.trans ((perm.flatMap_right _).trans ?_)
  rw [Ruling.mailOf_occasions _ _ each]

end Premises.Reached

/-- Once deliveries were waited for, even if some operations are still under way. -/
theorem decision_mail {admits : Floor → Order → Prop} (room : Mailroom σ)
    {route : Startup.JobRoute} {world : σ} {start : Dispatcher σ} {p : Premises σ}
    (made : Startup.defaultDispatcher? room.config route room.respond world = some start)
    (steady : room.Steady world) (before : room.sent world = [])
    (reached : Premises.Reached admits start p) :
    (room.config.email.isConfigured = false → room.sent p.course.dispatcher.drain.world = []) ∧
    (room.config.email.isConfigured = true →
      (room.sent p.course.dispatcher.drain.world).Perm
        ((p.floor.granted.filterMap (Ruling.mail? room.config.productName room.directory)).map
          (room.config.email.smtpSettings Handlers.mailTimeout, ·))) ∧
    ∀ x ∈ p.floor.granted, ∃ row, p.floor.store.findAny x.request.id = some row ∧
      row.status = x.decision := by
  obtain ⟨mails, sent, perm⟩ := reached.sent made steady
  rw [before, List.nil_append] at sent
  rw [sent]
  refine ⟨fun off => ?_, fun on => ?_, fun x hx => ?_⟩
  · have none : Ruling.submission? room.config room.directory = fun _ => none := by
      funext x
      simp [Ruling.submission?, off]
    simpa [none] using perm
  · have each : Ruling.submission? room.config room.directory = fun x =>
        (x.mail? room.config.productName room.directory).map
          (room.config.email.smtpSettings Handlers.mailTimeout, ·) := by
      funext x
      simp [Ruling.submission?, on]
    rwa [each, ← List.map_filterMap] at perm
  · obtain ⟨u, hu, granted⟩ := List.mem_filterMap.mp hx
    obtain ⟨i, inRange, rfl⟩ := List.getElem_of_mem hu
    have won := Floor.returned_of_granted? (List.getElem?_eq_getElem inRange) granted
    obtain ⟨t, ht, -, written⟩ := won.decision_turn reached.floor.coherent
    exact reached.floor.coherent.findAny_of_decision ht written

/-- Approved, with the owner in the directory, while somebody else is about to reject. -/
theorem decision_mail_approved : ∃ (room : Mailroom Rehearsal.Scene)
    (start : Dispatcher Rehearsal.Scene) (p : Premises Rehearsal.Scene),
    Premises.Reached Floor.Snapshots start p ∧ p.floor.undertakings.length = 3 ∧
      (room.sent p.course.dispatcher.drain.world).map (·.2) =
        [⟨["ann@example.org"], "[Desk] Approved request",
          "Hey ann! The project named alpha has been created by request."⟩] := by
  let now : Time.Instant := ⟨⟨2026, 6, 1⟩, 12, 0, 0, 0⟩
  let config : Config :=
    { productName := "Desk", email := { host := "mail.example.org", sender := "desk@example.org" } }
  let script : Rehearsal.Script := { users := [⟨1, "ann", "ann@example.org"⟩] }
  let room : Mailroom Rehearsal.Scene := Rehearsal.mailroom config script
  let reply : Reply := ⟨now, config, 0, fun
    | .createProject _ _ => .ok 7
    | .createQuota _ _ => .ok ()
    | _ => .error (.failed "down")⟩
  let row : Request := ⟨1, 1, "ann", "alpha", .notDetermined, false, .instant now, .instant now⟩
  let moves : List Floor.Move := [.order (.create ⟨1, "ann", "alpha"⟩), .answer 0,
    .order (.approve "root" row), .order (.reject "root" row), .answer 2, .answer 1, .answer 1,
    .answer 1, .answer 1, .answer 1, .answer 1]
  have played : (Floor.play? Floor.Snapshots reply moves {}).map (fun f =>
      (f.undertakings.length,
        f.granted.filterMap (Ruling.mail? room.config.productName room.directory))) =
        some (3, [⟨["ann@example.org"], "[Desk] Approved request",
          "Hey ann! The project named alpha has been created by request."⟩]) := by
    decide +kernel
  obtain ⟨f, runs, facts⟩ := Option.map_eq_some_iff.mp played
  obtain ⟨three, mails⟩ := Prod.mk.inj facts
  obtain ⟨start, made⟩ : ∃ start, Startup.defaultDispatcher? room.config .supplied room.respond
      ({ config, script } : Rehearsal.Scene) = some start := ⟨_, rfl⟩
  obtain ⟨p, reached, rfl⟩ := Premises.exists_reached start (Floor.runs_of_play? runs)
  have sent := (decision_mail room made ⟨rfl, rfl, rfl⟩ rfl reached).2.1 (by decide +kernel)
  rw [mails] at sent
  refine ⟨room, start, p, reached, three, ?_⟩
  rw [List.perm_singleton.mp sent]
  rfl

end ProjectDesk
