import ProjectDesk.Dispatch.Handler

/-!
Handlers that act out a part: how long each call takes and how it ends is laid down beforehand.
-/

namespace ProjectDesk.Rehearsal

structure Act where
  delay : Nat := 0
  ending : Except HandlerError Unit := .ok ()

/-- How often each handler was called, by number. -/
abbrev Turns := List (Nat × Nat)

namespace Turns

def of (turns : Turns) (number : Nat) : Nat :=
  (turns.lookup number).getD 0

def add (number : Nat) : Turns → Turns
  | [] => [(number, 1)]
  | (n, count) :: rest =>
      if n = number then (n, count + 1) :: rest else (n, count) :: add number rest

end Turns

/-- The act of a turn; the last one again when there are no more, and nothing at all when there
are none. -/
def actAt (acts : List Act) (turn : Nat) : Act :=
  (acts[turn]?.or acts.getLast?).getD {}

def actor (number : Nat) (name : String) (stateful : Bool) (acts : List Act) : Handler Turns :=
  { name
    stateful
    handle := fun _ turns =>
      let act := actAt acts (turns.of number)
      (⟨some act.delay, act.ending⟩, turns.add number) }

end ProjectDesk.Rehearsal
