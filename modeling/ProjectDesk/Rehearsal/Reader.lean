import ProjectDesk.Json.Lenient
import ProjectDesk.Rehearsal.Actor
import ProjectDesk.Rehearsal.Desk

/-!
Scripts, parts and faults as they are written down in JSON.
-/

namespace ProjectDesk.Rehearsal

open Json Json.Lenient

def storeErrorNamed (name : String) : StoreError :=
  if name = "row_not_found" then .rowNotFound
  else if name = "pool_closed" then .closed
  else if name = "pool_timed_out" then .timedOut
  else .malformed name

/-- A natural number of any size, as a number or as text. -/
def naturalOf : Document → Nat
  | .number n => Nat.ofDigitChars 10 n.whole 0
  | d => Nat.ofDigitChars 10 (stringOf d).toList 0

/-- A text alone, or texts from the outermost to the innermost. -/
def layersOf (d : Document) : String × List String :=
  match (itemsOf d).map stringOf with
  | [] => (stringOf d, [])
  | outer :: causes => (outer, causes)

def collaboratorErrorOf (d : Document) : CollaboratorError :=
  match get? d "timeout_ns", get? d "other", get? d "database" with
  | some ns, _, _ => .timeout ⟨naturalOf ns⟩
  | _, some other, _ =>
      let (text, causes) := layersOf other
      .other text causes
  | _, _, some name => .database (storeErrorNamed (stringOf name))
  | _, _, _ => .failed (stringOf d)

def sourceOf (d : Document) : CollaboratorError :=
  collaboratorErrorOf ((get? d "source").getD .null)

def otherErrorOf (d : Document) : HandlerError :=
  let (text, causes) := layersOf ((get? d "message").getD .null)
  .other text causes

def Faults.ofDocument (d : Document) : Faults :=
  let fault (name : String) : Option CollaboratorError := (get? d name).map collaboratorErrorOf
  { provision := fault "provision", quota := fault "quota", users := fault "users",
    mail := fault "mail", jobs := fault "jobs", tags := fault "tags",
    pullTime := fault "pull_time", pullCount := fault "pull_count", scan := fault "scan" }

def userOf (d : Document) : DirectoryUser :=
  ⟨int d "id", str d "username", str d "email"⟩

/-- Replaces what is given and leaves the rest. -/
def Script.revised (d : Document) (s : Script) : Script :=
  { users := if has d "users" then (list d "users").map userOf else s.users
    tags :=
      if has d "tags" then (membersOf (part d "tags")).map fun (name, id) => (name, wholeOf id)
      else s.tags
    nextProject :=
      if has d "next_project_id" then (int? d "next_project_id").getD 100 else s.nextProject
    faults := if has d "fail" then Faults.ofDocument (part d "fail") else s.faults }

def statusOf (d : Document) : Status :=
  (Status.ofName? (stringOf d)).getD .notDetermined

def Interference.ofDocument (d : Document) : Option Interference :=
  match get? d "delete", list d "transition" with
  | some id, _ => some (.delete (wholeOf id))
  | none, [id, before, after] =>
      some (.transition (wholeOf id) (statusOf before) (statusOf after))
  | none, _ => none

namespace Desk

def revised (d : Document) (desk : Desk Scene) : Desk Scene :=
  let hook (name : String) (old : Option Interference) : Option Interference :=
    if has d name then (get? d name).bind Interference.ofDocument else old
  { desk.inBothScenes fun scene => { scene with script := scene.script.revised d } with
    onProvision := hook "on_provision" desk.onProvision
    onQuota := hook "on_quota" desk.onQuota }

end Desk

def endingOf (d : Document) : Except HandlerError Unit :=
  let word := str d "then"
  if word = "fail" then .error (.failed (str d "message"))
  else if word = "collaborator" then .error (.collaborator (sourceOf d))
  else if word = "other" then .error (otherErrorOf d)
  else if word = "panic_string" then .error (.panicked (some (str d "message")))
  else if word = "panic_literal" then .error (.panicked (some "handler exploded"))
  else if word = "panic_other" then .error (.panicked none)
  else .ok ()

def Act.ofDocument (d : Document) : Act :=
  { delay := nat d "delay_ms", ending := endingOf d }

def actorOf (number : Nat) (d : Document) : Handler Turns :=
  actor number (str d "name") (bool d "stateful") ((list d "script").map Act.ofDocument)

/-- Registers handlers by their place in a list; a place outside it stands for a new handler. -/
def registerAll (handlers : List (Handler σ)) (newcomer : Handler σ) :
    Nat → List (String × Int) → List (Registration σ) → List (Registration σ)
  | _, [], entries => entries
  | newcomers, (topic, place) :: rest, entries =>
      match if place < 0 then none else handlers[place.toNat]? with
      | some h =>
          registerAll handlers newcomer newcomers rest
            (Registration.register topic ⟨place.toNat, h⟩ entries)
      | none =>
          registerAll handlers newcomer (newcomers + 1) rest
            (Registration.register topic ⟨handlers.length + newcomers, newcomer⟩ entries)

end ProjectDesk.Rehearsal
