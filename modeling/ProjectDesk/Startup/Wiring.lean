import ProjectDesk.Dispatch.Dispatcher
import ProjectDesk.Handlers.ArtifactPull
import ProjectDesk.Handlers.AutoScan
import ProjectDesk.Handlers.RequestMail
import ProjectDesk.Handlers.WebhookJob

/-!
The handlers that every desk starts with, and the topics they are subscribed to.
-/

namespace ProjectDesk.Startup

inductive Role where
  | artifactPull
  | autoScan
  | requestMail
  | webhookJob (jobName : String)
  deriving DecidableEq, Repr

namespace Role

def name : Role → String
  | .artifactPull => "artifact_pull"
  | .autoScan => "auto_scan"
  | .requestMail => "request_mail"
  | .webhookJob _ => "webhook_job"

def task : Role → DomainEvent → Task Unit
  | .artifactPull => Handlers.artifactPull
  | .autoScan => Handlers.autoScan
  | .requestMail => Handlers.requestMail
  | .webhookJob jobName => Handlers.webhookJob jobName

def handler (respond : (e : Errand) → σ → e.Answer × σ) (r : Role) : Handler σ :=
  .ofTask r.name respond r.task

end Role

/-- How jobs are handed in: as the embedding program says, or over HTTP, or not at all. -/
inductive JobRoute where
  | supplied
  | http (url : String) (secret : Option String)
  | absent
  deriving DecidableEq, Repr

namespace JobRoute

def choose (supplied : Bool) (config : Config) : JobRoute :=
  if supplied then .supplied
  else
    match config.jobService.url with
    | some url => .http url config.jobService.secret
    | none => .absent

end JobRoute

/-- Topic, number of the instance, and role. Without a way to hand in jobs nothing is subscribed
to hooks. -/
def subscriptions (route : JobRoute) : List (String × Nat × Role) :=
  [(Topic.pullArtifact, 0, .artifactPull), (Topic.pushArtifact, 1, .autoScan),
    (Topic.approveRequest, 2, .requestMail), (Topic.rejectRequest, 2, .requestMail)] ++
    if route = .absent then [] else [(Topic.webhook, 3, .webhookJob Handlers.emailJob)]

def registrations (handlerFor : Role → Handler σ) (route : JobRoute) : List (Registration σ) :=
  (subscriptions route).foldl
    (fun entries (topic, number, role) =>
      Registration.register topic ⟨number, handlerFor role⟩ entries) []

def defaultDispatcher? (config : Config) (route : JobRoute)
    (respond : (e : Errand) → σ → e.Answer × σ) (world : σ) : Option (Dispatcher σ) :=
  Dispatcher.ofConfig? config.dispatcher (registrations (Role.handler respond) route) world

end ProjectDesk.Startup
