import ProjectDesk.Proofs.Program.Attended
import ProjectDesk.Proofs.Store.Soundness
import ProjectDesk.Proofs.Workflow.Floor
import ProjectDesk.Proofs.Workflow.Question

/-!
The ways an approval can go. It asks for one thing after the other and is given up where one of them
fails; each way is written down with the questions and the answers, from the check to the
announcement.
-/

namespace ProjectDesk

namespace Workflow

/-! What an approval asks for, in its order. -/

abbrev askCheck (r : Request) : Ask := .statement (.findLive r.id)

abbrev askProject (r : Request) : Ask := .call (.createProject r.name r.ownerId)

abbrev askQuota (projectId : Int) (quota : QuotaConfig) : Ask :=
  .call (.createQuota (.project projectId) ⟨some quota.storagePerProject⟩)

abbrev askWrite (r : Request) : Ask := .statement (.transition r.id .notDetermined .approved)

abbrev askNotice (operator : String) (r : Request) : Ask :=
  .announce operator (.approved (.ofRequest r operator))

/-- How the check goes. -/
inductive Examined (r : Request) : List (Exchange Ask.interface) → Except RequestError Unit → Prop
  | decidedCopy (decided : r.status ≠ .notDetermined) :
      Examined r [] (.error (.conflict (.alreadyDecided r.id r.status)))
  | unread {e : StoreError} (undecided : r.status = .notDetermined) :
      Examined r [⟨askCheck r, .error e⟩] (.error (.database e))
  | gone (undecided : r.status = .notDetermined) :
      Examined r [⟨askCheck r, .ok none⟩] (.error (missing r.id))
  | decided {current : Request} (undecided : r.status = .notDetermined)
      (decided : current.status ≠ .notDetermined) :
      Examined r [⟨askCheck r, .ok (some current)⟩]
        (.error (.conflict (.alreadyDecided current.id current.status)))
  | passed {current : Request} (undecided : r.status = .notDetermined)
      (live : current.status = .notDetermined) :
      Examined r [⟨askCheck r, .ok (some current)⟩] (.ok ())

/-- How the project gets its quota, if it is to have one. -/
inductive Limited (projectId : Int) :
    List (Exchange Ask.interface) → Except RequestError Unit → Prop
  | unlimited {config : Config} (off : config.quota.enabledPerProject = false) :
      Limited projectId [⟨Ask.settings, config⟩] (.ok ())
  | limited {config : Config} (on : config.quota.enabledPerProject = true) :
      Limited projectId [⟨Ask.settings, config⟩, ⟨askQuota projectId config.quota, .ok ()⟩] (.ok ())
  | failed {config : Config} {e : CollaboratorError} (on : config.quota.enabledPerProject = true) :
      Limited projectId [⟨Ask.settings, config⟩, ⟨askQuota projectId config.quota, .error e⟩]
        (.error (.dependency .quota (some projectId) e))

/-- How the decision is written and announced. Where nothing was left to decide, the request is read
once more. -/
inductive Settled (operator : String) (r : Request) :
    List (Exchange Ask.interface) → Except RequestError Unit → Prop
  | failed {e : StoreError} : Settled operator r [⟨askWrite r, .error e⟩] (.error (.database e))
  | unread {e : StoreError} :
      Settled operator r [⟨askWrite r, .ok 0⟩, ⟨askCheck r, .error e⟩] (.error (.database e))
  | gone :
      Settled operator r [⟨askWrite r, .ok 0⟩, ⟨askCheck r, .ok none⟩] (.error (missing r.id))
  | lost {current : Request} :
      Settled operator r [⟨askWrite r, .ok 0⟩, ⟨askCheck r, .ok (some current)⟩]
        (.error (.conflict (.decidedMeanwhile r.id current.status)))
  | written {n scheduled : Nat} :
      Settled operator r [⟨askWrite r, .ok (n + 1)⟩, ⟨askNotice operator r, scheduled⟩] (.ok ())

/-- How an approval goes. -/
inductive Approval (operator : String) (r : Request) :
    List (Exchange Ask.interface) → Except RequestError Unit → Prop
  | refused {t : List (Exchange Ask.interface)} {e : RequestError}
      (examined : Examined r t (.error e)) : Approval operator r t (.error e)
  | noProject {t : List (Exchange Ask.interface)} {e : CollaboratorError}
      (examined : Examined r t (.ok ())) :
      Approval operator r (t ++ [⟨askProject r, .error e⟩]) (.error (.dependency .provision none e))
  | noQuota {t t' : List (Exchange Ask.interface)} {projectId : Int} {e : RequestError}
      (examined : Examined r t (.ok ())) (limited : Limited projectId t' (.error e)) :
      Approval operator r (t ++ ([⟨askProject r, .ok projectId⟩] ++ t')) (.error e)
  | settled {t t' t'' : List (Exchange Ask.interface)} {projectId : Int}
      {result : Except RequestError Unit} (examined : Examined r t (.ok ()))
      (limited : Limited projectId t' (.ok ())) (settled : Settled operator r t'' result) :
      Approval operator r (t ++ ([⟨askProject r, .ok projectId⟩] ++ (t' ++ t''))) result

variable {operator : String} {r : Request}

open Operation

end Workflow
end ProjectDesk
