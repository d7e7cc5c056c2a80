import ProjectDesk.Collaborator.Codec
import ProjectDesk.Dispatch.Dispatcher
import ProjectDesk.Rehearsal.Script

/-!
What a rehearsal reports: the calls that were made, the failures, and who started and ended
when.
-/

namespace ProjectDesk

open Json

def SmtpSettings.toValue (s : SmtpSettings) : Value :=
  .object [("address", .string s.address), ("host", .string s.host), ("port", .whole s.port),
    ("identity", .string s.identity), ("username", .string s.username),
    ("password", .string s.password), ("timeout_ms", .whole s.timeout.millis),
    ("use_ssl", .bool s.useSsl), ("insecure_skip_verify", .bool s.insecureSkipVerify),
    ("from", .string s.sender)]

def MailMessage.toValue (m : MailMessage) : Value :=
  .object [("to", .strings m.recipients), ("subject", .string m.subject), ("body", .string m.body)]

namespace Rehearsal

/-- The name of the call, then what was handed over. -/
def callValue : Call → Value
  | .createProject name ownerId =>
      .array [.string "create_project", .string name, .whole ownerId]
  | .createQuota reference limits =>
      .array [.string "create_quota", .string reference.text, limits.toValue]
  | .findUser id => .array [.string "get_user", .whole id]
  | .sendMail settings message =>
      .array [.string "send_mail", settings.toValue, message.toValue]
  | .submitJob job => .array [.string "submit_job", job.toValue]
  | .findTag artifactId tag => .array [.string "find_tag", .whole artifactId, .string tag]
  | .updatePullTime artifactId tagId pulledAt =>
      .array [.string "update_pull_time", .whole artifactId, Value.orNull .whole tagId,
        instantValue pulledAt]
  | .addPullCount repositoryId => .array [.string "add_pull_count", .whole repositoryId]
  | .autoScan artifact tags => .array [.string "auto_scan", artifact.toValue, .strings tags]

def failureValue (f : FailureRecord) : Value :=
  .object [("handler", .string f.handler), ("topic", .string f.topic),
    ("event_kind", .string f.eventKind), ("error", .string f.error)]

/-- Sorted by their text. -/
def sortedByText (vs : List Value) : List Value :=
  vs.mergeSort fun v w => decide (v.compact ≤ w.compact)

/-- The last failures, as many as were pushed since there had been the given number. -/
def pushedSince (count : Nat) (log : FailureLog FailureRecord) : List FailureRecord :=
  FailureLog.latest (log.pushed - count) log.held

/-- A start or an end, with a key that tells apart those of one moment. -/
structure LogLine (κ : Type) where
  time : Nat
  isStart : Bool
  key : κ
  value : Value

namespace LogLine

/-- By time; at one moment ends before starts, and then by key. -/
def before (keyBefore : κ → κ → Bool) (a b : LogLine κ) : Bool :=
  if a.time ≠ b.time then a.time < b.time
  else if a.isStart ≠ b.isStart then b.isStart
  else keyBefore a.key b.key

def start (key : κ) (time : Nat) (members : List (String × Value)) : LogLine κ :=
  ⟨time, true, key, .object (members ++ [("phase", .string "start"), ("t", .whole time)])⟩

def finish (key : κ) (time : Nat) (members : List (String × Value)) : LogLine κ :=
  ⟨time, false, key, .object (members ++ [("phase", .string "end"), ("t", .whole time)])⟩

def sorted (keyBefore : κ → κ → Bool) (lines : List (LogLine κ)) : Value :=
  .array ((lines.mergeSort (before keyBefore)).map (·.value))

end LogLine

variable {σ : Type}

/-- A handler's number and the number of its call. -/
abbrev Turn := Nat × Nat

def Turn.before (a b : Turn) : Bool :=
  if a.1 = b.1 then a.2 ≤ b.2 else a.1 < b.1

def startsOf (number : Nat) (history : List (Milestone (Delivery σ) Ending)) : List Nat :=
  history.filterMap fun
    | .started t _ => if t.task.subscriber.number = number then some t.number else none
    | .ended _ _ _ => none

/-- The calls of a handler are counted in the order of their starts. -/
def turnOf (history : List (Milestone (Delivery σ) Ending)) (t : Ticket (Delivery σ)) : Turn :=
  let number := t.task.subscriber.number
  (number, ((startsOf number history).idxOf? t.number).getD 0)

def turnMembers (turn : Turn) : List (String × Value) :=
  [("h", .whole turn.1), ("call", .whole turn.2)]

/-- A delivery that was cut off, by the timeout or by shutdown, has no end of its own. -/
def deliveryLine (history : List (Milestone (Delivery σ) Ending)) :
    Milestone (Delivery σ) Ending → Option (LogLine Turn)
  | .started t time =>
      let turn := turnOf history t
      let o := t.task.occasion
      some (.start turn time (turnMembers turn ++
        [("topic", .string o.topic), ("operator", .string o.operator),
          ("kind", .string o.event.kind.name)]))
  | .ended _ _ (.error (.timedOut _)) | .ended _ _ (.error .cancelled) => none
  | .ended t time _ =>
      let turn := turnOf history t
      some (.finish turn time (turnMembers turn))

end Rehearsal
end ProjectDesk
