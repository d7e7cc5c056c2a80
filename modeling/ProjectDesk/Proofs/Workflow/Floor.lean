import Mathlib.Logic.Relation
import ProjectDesk.Proofs.Program.Exchange
import ProjectDesk.Proofs.Store.Soundness
import ProjectDesk.Proofs.Workflow.Order

/-!
Operations side by side. Any number of them are under way on one store, and they take turns in any
order: in a turn one question of one of them is answered. A statement is carried out on the store as
a whole; other subsystems may answer anything, so that every failure of theirs is covered. All turns
are kept, in their order, with the store as it was found.
-/

namespace ProjectDesk

namespace Workflow

/-- An order and what is still to be done for it. -/
structure Undertaking where
  order : Order
  rest : Program Ask.interface (Except RequestError order.Result)

/-- What the surroundings come up with at one moment. -/
structure Reply where
  time : Time.Instant
  config : Config
  /-- How many deliveries are scheduled for what is announced. -/
  scheduled : Nat
  call : (c : Call) → c.Answer

def Reply.respond (reply : Reply) (store : Store) : (q : Ask) → q.Answer × Store
  | .statement s => s.run reply.time store
  | .call c => (reply.call c, store)
  | .settings => (reply.config, store)
  | .announce _ _ => (reply.scheduled, store)

/-- A question that was answered. -/
structure Turn where
  asker : Nat
  found : Store
  query : Ask
  reply : Reply

namespace Turn

def answer (t : Turn) : t.query.Answer := (t.reply.respond t.found t.query).1

/-- The store after the turn. -/
def left (t : Turn) : Store := (t.reply.respond t.found t.query).2

def exchange (t : Turn) : Exchange Ask.interface := ⟨t.query, t.answer⟩

end Turn

structure Floor where
  store : Store := {}
  turns : List Turn := []
  undertakings : List Undertaking := []

namespace Floor

def take (o : Order) (f : Floor) : Floor :=
  { f with undertakings := f.undertakings ++ [⟨o, o.operation.run⟩] }

def record (t : Turn) (rest : Undertaking) (f : Floor) : Floor :=
  { store := t.left
    turns := f.turns ++ [t]
    undertakings := f.undertakings.set t.asker rest }

/-- Answers the question that one of those under way has, if it has one. -/
def answer? (asker : Nat) (reply : Reply) (f : Floor) : Option Floor :=
  match f.undertakings[asker]? with
  | some ⟨o, .ask q next⟩ =>
      let t : Turn := ⟨asker, f.store, q, reply⟩
      some (f.record t ⟨o, next t.answer⟩)
  | _ => none

/-- A new order, if it is admitted now, or one question of one of those under way. -/
inductive Step (admits : Floor → Order → Prop) (f : Floor) : Floor → Prop
  | ordered (o : Order) (admitted : admits f o) : Step admits f (f.take o)
  | answered (asker : Nat) (reply : Reply) {g : Floor} (h : f.answer? asker reply = some g) :
      Step admits f g

def Runs (admits : Floor → Order → Prop) : Floor → Floor → Prop :=
  Relation.ReflTransGen (Step admits)

/-- Nothing has happened before, and the store is empty. -/
def Reached (admits : Floor → Order → Prop) (f : Floor) : Prop := Runs admits {} f

/-- Every operation has returned. -/
def Quiet (f : Floor) : Prop :=
  ∀ u ∈ f.undertakings, ∃ result, u.rest = .done result

def exchangesOf (asker : Nat) (f : Floor) : List (Exchange Ask.interface) :=
  (f.turns.filter (·.asker == asker)).map Turn.exchange

/-- All stores that there have been, the present one last. -/
def stores (f : Floor) : List Store := f.turns.map (·.found) ++ [f.store]

theorem answer?_eq_some {asker : Nat} {reply : Reply} {f g : Floor}
    (h : f.answer? asker reply = some g) :
    ∃ (o : Order) (q : Ask)
      (next : q.Answer → Program Ask.interface (Except RequestError o.Result)),
      f.undertakings[asker]? = some ⟨o, .ask (I := Ask.interface) q next⟩ ∧
      g = f.record ⟨asker, f.store, q, reply⟩ ⟨o, next (reply.respond f.store q).1⟩ := by
  unfold answer? at h
  split at h
  · rename_i o q next found
    exact ⟨o, q, next, found, (Option.some.inj h).symm⟩
  · cases h

instance (f : Floor) : Decidable f.Quiet :=
  decidable_of_iff (f.undertakings.all fun u => u.rest.isDone) (by
    simp only [List.all_eq_true, Program.isDone_iff]
    exact Iff.rfl)

/-! Runs that are given as scripts, in which everything is answered alike. -/

inductive Move where
  | order (o : Order)
  | answer (asker : Nat)

section Play

variable (admits : Floor → Order → Prop) [∀ f o, Decidable (admits f o)] (reply : Reply)

def move? (f : Floor) : Move → Option Floor
  | .order o => if admits f o then some (f.take o) else none
  | .answer asker => f.answer? asker reply

def play? : List Move → Floor → Option Floor
  | [], f => some f
  | move :: rest, f => (f.move? admits reply move).bind (play? rest)

end Play

variable {admits : Floor → Order → Prop} [∀ f o, Decidable (admits f o)] {reply : Reply}
  {f g : Floor}

theorem step_of_move? {move : Move} (h : f.move? admits reply move = some g) :
    Step admits f g := by
  cases move with
  | order o =>
      obtain ⟨admitted, taken⟩ := Option.ite_none_right_eq_some.mp h
      rw [← Option.some.inj taken]
      exact .ordered o admitted
  | answer asker => exact .answered asker reply h

theorem runs_of_play? {moves : List Move} (h : f.play? admits reply moves = some g) :
    Runs admits f g := by
  induction moves generalizing f with
  | nil =>
      cases h
      exact .refl
  | cons move rest ih =>
      obtain ⟨next, first, others⟩ := Option.bind_eq_some_iff.mp h
      exact .head (step_of_move? first) (ih others)

end Floor
end Workflow
end ProjectDesk
