import ProjectDesk.Proofs.Handlers.RequestMail
import ProjectDesk.Rehearsal.Script

/-!
The surroundings of handlers in rehearsal: mail that is submitted is noted, and who is in the
directory is laid down in the script.
-/

namespace ProjectDesk

def Call.mail? : Call → Option Submission
  | .sendMail settings message => some (settings, message)
  | _ => none

namespace Rehearsal

theorem Script.answer_kept (s : Script) (c : Call) :
    (s.answer c).2.users = s.users ∧ (s.answer c).2.faults = s.faults := by
  unfold Script.answer
  cases s.fault c with
  | some e => exact ⟨rfl, rfl⟩
  | none => cases c <;> exact ⟨rfl, rfl⟩

/-- The handlers' scene, as long as neither the configuration nor the script is changed. -/
def mailroom (config : Config) (script : Script) : Mailroom Scene where
  respond := Scene.errand {}
  config := config
  directory := fun id => (script.answer (.findUser id)).1
  Steady := fun scene => scene.config = config ∧ scene.script.users = script.users ∧
    scene.script.faults = script.faults
  sent := fun scene => scene.calls.filterMap Call.mail?
  steady_respond := by
    rintro e w ⟨same, users, faults⟩
    cases e with
    | settings => exact ⟨same, users, faults⟩
    | call c =>
        have called : Scene.errand {} (.call c) w = w.call c := by cases c <;> rfl
        have kept := w.script.answer_kept c
        rw [called]
        exact ⟨same, kept.1.trans users, kept.2.trans faults⟩
  settings := by
    rintro w ⟨rfl, -⟩
    rfl
  findUser := by
    rintro id w ⟨-, users, faults⟩
    change (w.script.answer (.findUser id)).1 = _
    simp only [Script.answer, Script.fault, Script.result, users, faults]
    cases script.faults.users <;> rfl
  sent_findUser := by
    intro id w
    exact (List.filterMap_append).trans (List.append_nil _)
  sent_sendMail := by
    intro settings message w
    exact List.filterMap_append

end Rehearsal

end ProjectDesk
