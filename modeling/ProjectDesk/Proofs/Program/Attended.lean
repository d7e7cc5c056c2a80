import ProjectDesk.Proofs.Program.Exchange

/-!
A program that is seen through to its end. The surroundings may be other ones at every question, as
they are when other programs have had their turn in between, and nothing is assumed of them.
-/

namespace ProjectDesk.Program

variable {I : Interface} {α β : Type} {p : Program I α} {e : Exchange I} {n : Nat}

/-- What is asked, with the answers, and the result, if the surroundings answer the n-th question
as `env n` does. -/
def attend (env : Nat → (q : I.Query) → I.Answer q) : Program I α → List (Exchange I) × α
  | .done a => ([], a)
  | .ask q next =>
      let (later, a) := attend (fun n => env (n + 1)) (next (env 0 q))
      (⟨q, env 0 q⟩ :: later, a)

theorem attend_bind (env : Nat → (q : I.Query) → I.Answer q) (p : Program I α)
    (f : α → Program I β) :
    (p.bind f).attend env =
      (let (t, a) := p.attend env
       let (t', b) := (f a).attend fun n => env (n + t.length)
       (t ++ t', b)) := by
  induction p generalizing env with
  | done a => rfl
  | ask q next ih =>
      rw [Program.bind, attend, ih]
      simp [attend, Nat.add_assoc]

theorem leads_attend (env : Nat → (q : I.Query) → I.Answer q) (p : Program I α) :
    p.Leads (p.attend env).1 (.done (p.attend env).2) := by
  induction p generalizing env with
  | done a => exact .here _
  | ask q next ih => exact .asked _ (ih _ _)

theorem Ensures.attend {required : List (Exchange I) → α → Prop} (h : p.Ensures required)
    (env : Nat → (q : I.Query) → I.Answer q) : required (p.attend env).1 (p.attend env).2 :=
  h.of_leads (leads_attend env p)

/-- Every answer is that of its moment. -/
theorem answer_attend (env : Nat → (q : I.Query) → I.Answer q)
    (h : (p.attend env).1[n]? = some e) : e.answer = env n e.query := by
  induction p generalizing env n with
  | done a => simp [Program.attend] at h
  | ask q next ih =>
      cases n with
      | zero =>
          cases h
          rfl
      | succ n => exact ih (env 0 q) (fun n => env (n + 1)) h

end ProjectDesk.Program
