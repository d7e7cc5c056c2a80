/-!
Programs that act on their surroundings only by asking. What is asked and what comes back is an
interface; the surroundings answer one question at a time, so several programs can take turns.
-/

namespace ProjectDesk

structure Interface where
  Query : Type
  Answer : Query → Type

inductive Program (I : Interface) (α : Type) where
  | done (a : α)
  | ask (q : I.Query) (next : I.Answer q → Program I α)

namespace Program

variable {I : Interface} {α β σ : Type}

def bind : Program I α → (α → Program I β) → Program I β
  | .done a, f => f a
  | .ask q next, f => .ask q fun answer => bind (next answer) f

instance : Monad (Program I) where
  pure := .done
  bind := bind

def query (q : I.Query) : Program I (I.Answer q) :=
  .ask q .done

/-- Answers each question from a state, which the answers may change. -/
def run (respond : (q : I.Query) → σ → I.Answer q × σ) : Program I α → σ → α × σ
  | .done a, s => (a, s)
  | .ask q next, s =>
      let (answer, s) := respond q s
      run respond (next answer) s

@[simp] theorem bind_done (a : α) (f : α → Program I β) : (Program.done a).bind f = f a := rfl

theorem run_bind (respond : (q : I.Query) → σ → I.Answer q × σ) (p : Program I α)
    (f : α → Program I β) (s : σ) :
    (p.bind f).run respond s =
      (let (a, s) := p.run respond s; (f a).run respond s) := by
  induction p generalizing s with
  | done a => rfl
  | ask q next ih => exact ih _ _

end Program
end ProjectDesk
