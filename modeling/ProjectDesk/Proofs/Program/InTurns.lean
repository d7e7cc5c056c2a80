import ProjectDesk.Proofs.Program.Exchange

/-!
Two programs at the same time. Each asks one question after the other, and as long as both have one,
it is settled by turns whose goes first; who has ended leaves the turns to the other. However the
turns fall, what is exchanged is one course of the first program and one of the second, merged.
-/

namespace ProjectDesk

/-- A list that has both of the first two as its parts, each in its order. -/
inductive Merged {ε : Type} : List ε → List ε → List ε → Prop
  | nil : Merged [] [] []
  | left {xs ys zs : List ε} (e : ε) (rest : Merged xs ys zs) : Merged (e :: xs) ys (e :: zs)
  | right {xs ys zs : List ε} (e : ε) (rest : Merged xs ys zs) : Merged xs (e :: ys) (e :: zs)

namespace Merged

variable {ε : Type} {xs ys zs : List ε} {f : ε → Bool}

theorem nil_left (ys : List ε) : Merged [] ys ys := by
  induction ys with
  | nil => exact .nil
  | cons e ys ih => exact .right e ih

theorem mem (h : Merged xs ys zs) {e : ε} (he : e ∈ zs) : e ∈ xs ∨ e ∈ ys := by
  induction h with
  | nil => cases he
  | left _ _ ih =>
      rcases List.mem_cons.mp he with rfl | he
      · exact .inl (.head _)
      · exact (ih he).imp_left (.tail _)
  | right _ _ ih =>
      rcases List.mem_cons.mp he with rfl | he
      · exact .inr (.head _)
      · exact (ih he).imp_right (.tail _)

theorem swap (h : Merged xs ys zs) : Merged ys xs zs := by
  induction h with
  | nil => exact .nil
  | left e _ ih => exact .right e ih
  | right e _ ih => exact .left e ih

/-- A part is found again by what only its elements have. -/
theorem filter_eq_left (h : Merged xs ys zs) (mine : ∀ e ∈ xs, f e = true)
    (others : ∀ e ∈ ys, f e = false) : zs.filter f = xs := by
  induction h with
  | nil => rfl
  | left e _ ih =>
      obtain ⟨first, mine⟩ := List.forall_mem_cons.mp mine
      rw [List.filter_cons_of_pos first, ih mine others]
  | right e _ ih =>
      obtain ⟨first, others⟩ := List.forall_mem_cons.mp others
      rw [List.filter_cons_of_neg (by simp [first]), ih mine others]

end Merged

namespace Program

variable {I : Interface} {α β γ : Type}

theorem bind_pure_eq (p : Program I α) : p.bind .done = p := by
  induction p with
  | done a => rfl
  | ask q next ih => exact congrArg (Program.ask q) (funext ih)

theorem bind_bind (p : Program I α) (f : α → Program I β) (g : β → Program I γ) :
    (p.bind f).bind g = p.bind fun a => (f a).bind g := by
  induction p with
  | done a => rfl
  | ask q next ih => exact congrArg (Program.ask q) (funext ih)

instance : LawfulMonad (Program I) :=
  .mk' _ bind_pure_eq (fun _ _ => rfl) bind_bind

/-- Only the results that there are decide how it goes on. -/
theorem Ensures.bind_congr {p : Program I α} {f g : α → Program I β}
    (h : p.Ensures fun _ a => f a = g a) : p >>= f = p >>= g := by
  induction p with
  | done a => exact h
  | ask q next ih => exact congrArg (Program.ask q) (funext fun answer => ih answer (h answer))

/-- Where the first program has a question, the second goes on until it is the first one's turn. -/
def untilTurn (q : I.Query) (next : I.Answer q → (Nat → Bool) → Program I β → Program I γ)
    (turns : Nat → Bool) : Program I β → Program I γ
  | .done b => .ask q fun answer => next answer turns (.done b)
  | .ask q' next' =>
      if turns 0 then .ask q fun answer => next answer (fun n => turns (n + 1)) (.ask q' next')
      else .ask q' fun answer => untilTurn q next (fun n => turns (n + 1)) (next' answer)

/-- Both programs to their ends. It is the first one's turn where the turns say `true`. -/
def inTurns : Program I α → (Nat → Bool) → Program I β → Program I (α × β)
  | .done a, _, r => r.bind fun b => .done (a, b)
  | .ask q next, turns, r =>
      untilTurn q (fun answer turns r => inTurns (next answer) turns r) turns r

section Turn

variable {q q' : I.Query} {next : I.Answer q → Program I α} {next' : I.Answer q' → Program I β}
  {turns : Nat → Bool}

theorem inTurns_of_turn (h : turns 0 = true) :
    (Program.ask q next).inTurns turns (.ask q' next') =
      .ask q fun answer => (next answer).inTurns (fun n => turns (n + 1)) (.ask q' next') :=
  if_pos h

theorem inTurns_of_no_turn (h : turns 0 = false) :
    (Program.ask q next).inTurns turns (.ask q' next') =
      .ask q' fun answer =>
        (Program.ask q next).inTurns (fun n => turns (n + 1)) (next' answer) :=
  if_neg (ne_true_of_eq_false h)

end Turn

/-- The one after the other is one way to take turns. -/
theorem inTurns_first (p : Program I α) (r : Program I β) :
    p.inTurns (fun _ => true) r = do return (← p, ← r) := by
  induction p with
  | done a => rfl
  | ask q next ih =>
      cases r with
      | done b => exact congrArg (Program.ask q) (funext ih)
      | ask q' next' => exact congrArg (Program.ask q) (funext ih)

theorem ensures_inTurns {p : Program I α} {r : Program I β}
    {first : List (Exchange I) → α → Prop} {second : List (Exchange I) → β → Prop}
    (hp : p.Ensures first) (hr : r.Ensures second) (turns : Nat → Bool) :
    (p.inTurns turns r).Ensures fun t ab =>
      ∃ t₁ t₂, Merged t₁ t₂ t ∧ first t₁ ab.1 ∧ second t₂ ab.2 := by
  induction p generalizing first second r turns with
  | done a =>
      unfold inTurns
      refine ensures_bind.mpr (hr.mono fun t b h => ?_)
      exact ⟨[], t, by simpa using .nil_left t, hp, h⟩
  | ask q next ih =>
      -- the question of the first program is asked, whatever is left of the second
      have asked {r : Program I β} {second : List (Exchange I) → β → Prop} (hr : r.Ensures second)
          (turns : Nat → Bool) (answer : I.Answer q) :
          ((next answer).inTurns turns r).Ensures fun t ab =>
            ∃ t₁ t₂, Merged t₁ t₂ (⟨q, answer⟩ :: t) ∧ first t₁ ab.1 ∧ second t₂ ab.2 :=
        (ih answer (hp answer) hr turns).mono fun t ab ⟨t₁, t₂, merged, h₁, h₂⟩ =>
          ⟨_, t₂, .left _ merged, h₁, h₂⟩
      induction r generalizing second turns with
      | done b => exact asked hr turns
      | ask q' next' ih' =>
          cases turn : turns 0 with
          | true =>
              rw [inTurns_of_turn turn]
              exact asked hr _
          | false =>
              rw [inTurns_of_no_turn turn]
              exact fun answer => (ih' answer (hr answer) _).mono
                fun t ab ⟨t₁, t₂, merged, h₁, h₂⟩ => ⟨t₁, _, .right _ merged, h₁, h₂⟩

/-- Every way in which two courses can be merged is one of taking turns. -/
theorem exists_turns {p : Program I α} {r : Program I β} {t₁ t₂ t : List (Exchange I)} {a : α}
    {b : β} (merged : Merged t₁ t₂ t) (hp : p.Leads t₁ (.done a)) (hr : r.Leads t₂ (.done b)) :
    ∃ turns, (p.inTurns turns r).Leads t (.done (a, b)) := by
  induction merged generalizing p r with
  | nil =>
      cases hp
      cases hr
      exact ⟨fun _ => true, .here _⟩
  | left e _ ih =>
      cases hp with
      | asked answer rest =>
          obtain ⟨turns, leads⟩ := ih rest hr
          cases r with
          | done b' => exact ⟨turns, .asked answer leads⟩
          | ask q' next' =>
              refine ⟨fun n => Nat.casesOn n true turns, ?_⟩
              rw [inTurns_of_turn rfl]
              exact .asked answer leads
  | right e _ ih =>
      cases hr with
      | asked answer rest =>
          obtain ⟨turns, leads⟩ := ih hp rest
          cases p with
          | done a' => exact ⟨turns, .asked answer leads⟩
          | ask q next =>
              refine ⟨fun n => Nat.casesOn n false turns, ?_⟩
              rw [inTurns_of_no_turn rfl]
              exact .asked answer leads

end Program
end ProjectDesk
