import Mathlib.Data.List.Forall2
import ProjectDesk.Dispatch.FailureLog

/-!
What a subscriber is told of the failures. Whatever else goes on at the log, a subscriber has a line
of its own: what was pushed since it subscribed, less what it has been told of. It is told of the
first in the line; where the line is longer than the feed, it is told how many of the first it has
missed, and goes on with the rest. So every push is told once, or counted once as missed, or is
still in the line.
-/

namespace ProjectDesk

theorem filterMap_cons_toList {α β : Type} (f : α → Option β) (a : α) (as : List α) :
    (a :: as).filterMap f = (f a).toList ++ as.filterMap f := by
  cases h : f a <;> simp [h]

namespace Received

variable {φ : Type}

def failure? : Received φ → Option φ
  | .next failure => some failure
  | _ => none

/-- The pushes that an answer accounts for. -/
def Covers : Received φ → List φ → Prop
  | .next failure, pushes => pushes = [failure]
  | .lagged missed, pushes => pushes.length = missed
  | .empty, pushes | .noSubscription, pushes => pushes = []

theorem Covers.sublist {answer : Received φ} {pushes : List φ} (h : answer.Covers pushes) :
    answer.failure?.toList.Sublist pushes := by
  cases answer with
  | next failure =>
      obtain rfl : pushes = [failure] := h
      exact .refl _
  | empty | lagged _ | noSubscription => exact List.nil_sublist _

theorem failures_sublist {answers : List (Received φ)} {covered : List (List φ)}
    (h : List.Forall₂ Covers answers covered) :
    (answers.filterMap failure?).Sublist covered.flatten := by
  induction h with
  | nil => exact .refl _
  | @cons answer pushes answers covered first _ ih =>
      rw [filterMap_cons_toList, List.flatten_cons]
      exact first.sublist.append ih

end Received

namespace FailureLog

variable {φ : Type} {log : FailureLog φ} {id : Nat} {all line : List φ}

/-- What is done with a log. -/
inductive Act (φ : Type) where
  | push (failure : φ)
  | subscribe
  | unsubscribe (id : Nat)
  | receive (id : Nat)
  deriving DecidableEq, Repr

/-- What one subscriber sees of it. -/
inductive Seen (φ : Type) where
  | pushed (failure : φ)
  | asked
  deriving DecidableEq, Repr

def Seen.pushed? : Seen φ → Option φ
  | .pushed failure => some failure
  | .asked => none

namespace Act

def pushed? : Act φ → Option φ
  | .push failure => some failure
  | _ => none

def seen? (id : Nat) : Act φ → Option (Seen φ)
  | .push failure => some (.pushed failure)
  | .receive asker => if asker = id then some .asked else none
  | .subscribe | .unsubscribe _ => none

end Act

def act (log : FailureLog φ) : Act φ → FailureLog φ
  | .push failure => log.push failure
  | .subscribe => log.subscribe.2
  | .unsubscribe id => log.unsubscribe id
  | .receive id => (log.receive id).2

def play (acts : List (Act φ)) (log : FailureLog φ) : FailureLog φ :=
  acts.foldl act log

def pushes (acts : List (Act φ)) : List φ :=
  acts.filterMap Act.pushed?

def seen (id : Nat) (acts : List (Act φ)) : List (Seen φ) :=
  acts.filterMap (Act.seen? id)

/-- What the subscriber is told at its asking, if this is one. -/
def answer? (id : Nat) (log : FailureLog φ) (a : Act φ) : Option (Received φ) :=
  match a.seen? id with
  | some .asked => some (log.receive id).1
  | _ => none

/-- What the subscriber is told all the while. -/
def told (id : Nat) : List (Act φ) → FailureLog φ → List (Received φ)
  | [], _ => []
  | a :: later, log => (log.answer? id a).toList ++ told id later (log.act a)

/-! The line. -/

/-- What is told to one who has this line before it, and the line that is left. -/
def tell : List φ → Received φ × List φ
  | [] => (.empty, [])
  | failure :: line =>
      if feedSize ≤ line.length then
        (.lagged (line.length + 1 - feedSize), latest feedSize (failure :: line))
      else (.next failure, line)

def toldAlong : List φ → List (Seen φ) → List (Received φ)
  | _, [] => []
  | line, .pushed failure :: later => toldAlong (line ++ [failure]) later
  | line, .asked :: later => (tell line).1 :: toldAlong (tell line).2 later

def lineAfter : List φ → List (Seen φ) → List φ
  | line, [] => line
  | line, .pushed failure :: later => lineAfter (line ++ [failure]) later
  | line, .asked :: later => lineAfter (tell line).2 later

theorem length_latest (n : Nat) (xs : List φ) : (latest n xs).length = min n xs.length := by
  rw [latest, List.length_drop]
  omega

theorem latest_latest_append (n : Nat) (xs : List φ) (x : φ) :
    latest n (latest n xs ++ [x]) = latest n (xs ++ [x]) := by
  unfold latest
  simp only [List.length_append, List.length_drop, List.length_singleton, List.drop_append,
    List.drop_drop]
  congr 2 <;> omega

theorem tell_cons (failure : φ) (line : List φ) :
    tell (failure :: line) =
      if feedSize ≤ line.length then
        (.lagged (line.length + 1 - feedSize), latest feedSize (failure :: line))
      else (.next failure, line) := rfl

theorem length_tell_lt (first : φ) (line : List φ) :
    (tell (first :: line)).2.length < (first :: line).length := by
  rw [tell_cons]
  split
  · rename_i long
    rw [length_latest, List.length_cons]
    omega
  · exact Nat.lt_succ_self _

/-- An answer accounts for the beginning of the line. -/
theorem covers_tell (line : List φ) :
    ∃ covered, line = covered ++ (tell line).2 ∧ (tell line).1.Covers covered := by
  cases line with
  | nil => exact ⟨[], rfl, rfl⟩
  | cons failure line =>
      rw [tell_cons]
      split
      · refine ⟨(failure :: line).take (line.length + 1 - feedSize), ?_, ?_⟩
        · rw [latest, List.length_cons, List.take_append_drop]
        · rw [Received.Covers, List.length_take, List.length_cons]
          omega
      · exact ⟨[failure], rfl, rfl⟩

theorem tell_eq_empty_iff : (tell line).1 = .empty ↔ line = [] := by
  cases line with
  | nil => simp [tell]
  | cons failure line =>
      rw [tell_cons]
      split <;> simp

theorem tell_eq_lagged_iff {missed : Nat} :
    (tell line).1 = .lagged missed ↔ line.length = missed + feedSize ∧ 0 < missed := by
  cases line with
  | nil => simp [tell, feedSize]
  | cons failure line =>
      rw [tell_cons]
      split
      · simp only [Received.lagged.injEq, List.length_cons]
        omega
      · simp only [reduceCtorEq, List.length_cons, false_iff]
        omega

theorem tell_eq_next_iff {failure : φ} :
    (tell line).1 = .next failure ↔ line.head? = some failure ∧ line.length ≤ feedSize := by
  cases line with
  | nil => simp [tell]
  | cons first line =>
      rw [tell_cons]
      split
      · simp only [reduceCtorEq, List.length_cons, false_iff, not_and]
        omega
      · simp only [Received.next.injEq, List.head?_cons, Option.some.injEq, List.length_cons]
        exact (and_iff_left (by omega)).symm

/-- What was in the line at first and came to it is accounted for, or is in the line at last. -/
theorem covers_toldAlong (line : List φ) (later : List (Seen φ)) :
    ∃ covered, line ++ later.filterMap Seen.pushed? = covered.flatten ++ lineAfter line later ∧
      List.Forall₂ Received.Covers (toldAlong line later) covered := by
  induction later generalizing line with
  | nil => exact ⟨[], by simp [lineAfter], .nil⟩
  | cons s later ih =>
      cases s with
      | pushed failure =>
          obtain ⟨covered, parts, covers⟩ := ih (line ++ [failure])
          refine ⟨covered, ?_, covers⟩
          rw [lineAfter, ← parts, List.append_assoc]
          rfl
      | asked =>
          obtain ⟨first, split, covers⟩ := covers_tell line
          obtain ⟨covered, parts, others⟩ := ih (tell line).2
          refine ⟨first :: covered, ?_, .cons covers others⟩
          rw [List.flatten_cons, lineAfter, List.append_assoc, ← parts, ← List.append_assoc,
            ← split]
          rfl

theorem lineAfter_append (line : List φ) (first later : List (Seen φ)) :
    lineAfter line (first ++ later) = lineAfter (lineAfter line first) later := by
  induction first generalizing line with
  | nil => rfl
  | cons s first ih => cases s <;> exact ih _

theorem toldAlong_append (line : List φ) (first later : List (Seen φ)) :
    toldAlong line (first ++ later) =
      toldAlong line first ++ toldAlong (lineAfter line first) later := by
  induction first generalizing line with
  | nil => rfl
  | cons s first ih =>
      cases s with
      | pushed failure => exact ih _
      | asked => exact congrArg _ (ih _)

theorem toldAlong_pushed (line pushes : List φ) (later : List (Seen φ)) :
    toldAlong line (pushes.map .pushed ++ later) = toldAlong (line ++ pushes) later := by
  induction pushes generalizing line with
  | nil => rw [List.map_nil, List.nil_append, List.append_nil]
  | cons failure pushes ih =>
      refine (ih (line ++ [failure])).trans ?_
      rw [List.append_assoc, List.singleton_append]

/-- Who only asks comes to the end of the line. -/
theorem exists_drained (line : List φ) : ∃ n, lineAfter line (List.replicate n .asked) = [] := by
  induction h : line.length using Nat.strongRecOn generalizing line with
  | ind length ih =>
      subst h
      cases line with
      | nil => exact ⟨0, rfl⟩
      | cons failure line =>
          obtain ⟨n, drained⟩ := ih _ (length_tell_lt failure line) _ rfl
          exact ⟨n + 1, drained⟩

/-! The line of a subscriber. -/

/-- It has had these pushes, and no id is given that was not given before. -/
structure Fed (log : FailureLog φ) (all : List φ) : Prop where
  pushed : log.pushed = all.length
  held : log.held = latest feedSize all
  fresh : ∀ s ∈ log.subscriptions, s.id < log.subscribed

/-- Of all that was pushed, the subscriber has this line before it. -/
def HasLine (log : FailureLog φ) (all : List φ) (id : Nat) (line : List φ) : Prop :=
  ∃ passed, all = passed ++ line ∧
    log.subscriptions.find? (·.id == id) = some ⟨id, passed.length⟩

theorem find_moveTo (log : FailureLog φ) (mover position : Nat) :
    (log.moveTo mover position).subscriptions.find? (·.id == id) =
      (log.subscriptions.find? (·.id == id)).map fun s =>
        if s.id = mover then ⟨mover, position⟩ else s := by
  unfold moveTo
  rw [List.find?_map]
  congr 2
  funext s
  by_cases h : s.id = mover <;> simp [h]

theorem fed_moveTo (h : log.Fed all) (mover position : Nat) :
    (log.moveTo mover position).Fed all := by
  refine ⟨h.pushed, h.held, fun s hs => ?_⟩
  obtain ⟨old, member, rfl⟩ := List.mem_map.mp hs
  have known := h.fresh old member
  split
  · rename_i same
    exact same ▸ known
  · exact known

/-- Receiving only ever moves the one who receives. -/
theorem receive_moves (asker : Nat) (log : FailureLog φ) :
    (log.receive asker).2 = log ∨
      ∃ position, (log.receive asker).2 = log.moveTo asker position := by
  unfold receive
  split
  · exact .inl rfl
  · split
    · exact .inr ⟨_, rfl⟩
    · split
      · exact .inl rfl
      · exact .inr ⟨_, rfl⟩

theorem fed_push (h : log.Fed all) (failure : φ) : (log.push failure).Fed (all ++ [failure]) := by
  refine ⟨?_, ?_, h.fresh⟩
  · rw [FailureLog.push, h.pushed, List.length_append, List.length_singleton]
  · rw [FailureLog.push]
    dsimp only
    rw [h.held, latest_latest_append]

theorem fed_subscribe (h : log.Fed all) : log.subscribe.2.Fed all := by
  refine ⟨h.pushed, h.held, fun s hs => ?_⟩
  rcases List.mem_append.mp hs with old | new
  · exact Nat.lt_succ_of_lt (h.fresh s old)
  · obtain rfl := List.mem_singleton.mp new
    exact Nat.lt_succ_self _

theorem fed_unsubscribe (h : log.Fed all) (leaver : Nat) : (log.unsubscribe leaver).Fed all :=
  ⟨h.pushed, h.held, fun s hs => h.fresh s (List.mem_of_mem_filter hs)⟩

theorem fed_receive (h : log.Fed all) (asker : Nat) : (log.receive asker).2.Fed all := by
  rcases receive_moves asker log with same | ⟨position, moved⟩
  · rwa [same]
  · rw [moved]
    exact fed_moveTo h asker position

theorem fed_act (h : log.Fed all) (a : Act φ) : (log.act a).Fed (all ++ a.pushed?.toList) := by
  cases a with
  | push failure => exact fed_push h failure
  | subscribe => exact (List.append_nil all).symm ▸ fed_subscribe h
  | unsubscribe leaver => exact (List.append_nil all).symm ▸ fed_unsubscribe h leaver
  | receive asker => exact (List.append_nil all).symm ▸ fed_receive h asker

theorem fed_play (h : log.Fed all) (acts : List (Act φ)) :
    (log.play acts).Fed (all ++ pushes acts) := by
  induction acts generalizing log all with
  | nil =>
      rw [pushes, List.filterMap_nil, List.append_nil]
      exact h
  | cons a acts ih =>
      have later := ih (fed_act h a)
      rwa [List.append_assoc, pushes, ← filterMap_cons_toList] at later

theorem fed_new (capacity : Nat) : ({ capacity } : FailureLog φ).Fed [] :=
  ⟨rfl, List.drop_nil.symm, fun _ hs => nomatch hs⟩

theorem Fed.hasLine_subscribe (h : log.Fed all) :
    log.subscribe.2.HasLine all log.subscribe.1 [] := by
  refine ⟨all, (List.append_nil _).symm, ?_⟩
  have others : log.subscriptions.find? (·.id == log.subscribed) = none := by
    refine List.find?_eq_none.mpr fun s hs => ?_
    simpa using Nat.ne_of_lt (h.fresh s hs)
  simp [subscribe, List.find?_append, others, h.pushed]

theorem HasLine.moveTo (has : log.HasLine all id line) {passed rest : List φ}
    (split : all = passed ++ rest) : (log.moveTo id passed.length).HasLine all id rest := by
  obtain ⟨_, -, found⟩ := has
  refine ⟨passed, split, ?_⟩
  rw [find_moveTo, found, Option.map_some, if_pos rfl]

theorem getElem?_latest {n i : Nat} {xs : List φ} (h : xs.length - n ≤ i) :
    (latest n xs)[i - (xs.length - n)]? = xs[i]? := by
  rw [latest, List.getElem?_drop]
  congr 1
  omega

/-- Who has a line is told along it. -/
theorem Fed.tells (h : log.Fed all) (has : log.HasLine all id line) :
    (log.receive id).1 = (tell line).1 ∧ (log.receive id).2.HasLine all id (tell line).2 := by
  have known := has
  obtain ⟨passed, split, found⟩ := known
  have dropped : log.dropped = all.length - feedSize := by
    rw [FailureLog.dropped, h.pushed, h.held, length_latest]
    omega
  have length : all.length = passed.length + line.length := by rw [split, List.length_append]
  rw [receive, found]
  dsimp only
  rw [dropped, h.held]
  cases line with
  | nil =>
      rw [List.length_nil] at length
      have none : all[passed.length]? = none := List.getElem?_eq_none (by omega)
      rw [if_neg (by omega), getElem?_latest (by omega), none]
      exact ⟨rfl, has⟩
  | cons failure line =>
      rw [List.length_cons] at length
      rw [tell_cons]
      by_cases long : feedSize ≤ line.length
      · rw [if_pos long, if_pos (by omega)]
        refine ⟨congrArg Received.lagged (by omega), ?_⟩
        let missed := (failure :: line).take (line.length + 1 - feedSize)
        have reached : (passed ++ missed).length = all.length - feedSize := by
          rw [List.length_append, List.length_take, List.length_cons]
          omega
        rw [← reached]
        refine has.moveTo ?_
        rw [split, latest, List.length_cons, List.append_assoc, List.take_append_drop]
      · have next : all[passed.length]? = some failure := by simp [split]
        rw [if_neg long, if_neg (by omega), getElem?_latest (by omega), next]
        refine ⟨rfl, ?_⟩
        have split : all = (passed ++ [failure]) ++ line := by simp [split]
        have moved := has.moveTo split
        rwa [List.length_append, List.length_singleton] at moved

theorem HasLine.push (has : log.HasLine all id line) (failure : φ) :
    (log.push failure).HasLine (all ++ [failure]) id (line ++ [failure]) := by
  obtain ⟨passed, rfl, found⟩ := has
  exact ⟨passed, List.append_assoc _ _ _, found⟩

theorem HasLine.subscribe (has : log.HasLine all id line) :
    log.subscribe.2.HasLine all id line := by
  obtain ⟨passed, split, found⟩ := has
  refine ⟨passed, split, ?_⟩
  rw [FailureLog.subscribe, List.find?_append, found, Option.some_or]

theorem HasLine.unsubscribe (has : log.HasLine all id line) {leaver : Nat} (other : leaver ≠ id) :
    (log.unsubscribe leaver).HasLine all id line := by
  obtain ⟨passed, split, found⟩ := has
  refine ⟨passed, split, ?_⟩
  rw [FailureLog.unsubscribe, List.find?_filter, ← found]
  congr 1
  funext s
  by_cases mine : s.id = id
  · simp [mine, Ne.symm other]
  · simp [mine]

theorem HasLine.receive (has : log.HasLine all id line) {asker : Nat} (other : asker ≠ id) :
    (log.receive asker).2.HasLine all id line := by
  rcases receive_moves asker log with same | ⟨position, moved⟩
  · rwa [same]
  · obtain ⟨passed, split, found⟩ := has
    refine ⟨passed, split, ?_⟩
    rw [moved, find_moveTo, found, Option.map_some, if_neg (Ne.symm other)]

/-- In one act a subscriber is told what its line tells it, and keeps its line. -/
theorem Fed.follows (h : log.Fed all) (has : log.HasLine all id line) {a : Act φ}
    (stays : a ≠ .unsubscribe id) :
    (log.answer? id a).toList = toldAlong line (a.seen? id).toList ∧
      (log.act a).HasLine (all ++ a.pushed?.toList) id (lineAfter line (a.seen? id).toList) := by
  cases a with
  | push failure => exact ⟨rfl, has.push failure⟩
  | subscribe => exact ⟨rfl, (List.append_nil all).symm ▸ has.subscribe⟩
  | unsubscribe leaver =>
      have other : leaver ≠ id := fun same => stays (congrArg _ same)
      exact ⟨rfl, (List.append_nil all).symm ▸ has.unsubscribe other⟩
  | receive asker =>
      by_cases mine : asker = id
      · subst mine
        obtain ⟨answer, left⟩ := h.tells has
        rw [answer?, Act.seen?, if_pos rfl]
        exact ⟨congrArg (fun told => [told]) answer, (List.append_nil all).symm ▸ left⟩
      · rw [answer?, Act.seen?, if_neg mine]
        exact ⟨rfl, (List.append_nil all).symm ▸ has.receive mine⟩

theorem Fed.told_eq (h : log.Fed all) (has : log.HasLine all id line) {acts : List (Act φ)}
    (stays : .unsubscribe id ∉ acts) :
    told id acts log = toldAlong line (seen id acts) ∧
      (log.play acts).HasLine (all ++ pushes acts) id (lineAfter line (seen id acts)) := by
  induction acts generalizing log all line with
  | nil => exact ⟨rfl, (List.append_nil all).symm ▸ has⟩
  | cons a acts ih =>
      rw [List.mem_cons, not_or] at stays
      obtain ⟨answer, left⟩ := h.follows has (Ne.symm stays.1)
      obtain ⟨others, last⟩ := ih (fed_act h a) left stays.2
      refine ⟨?_, ?_⟩
      · rw [seen, filterMap_cons_toList, toldAlong_append, told, answer, others, seen]
      · rw [seen, pushes, filterMap_cons_toList, filterMap_cons_toList, lineAfter_append,
          ← List.append_assoc]
        exact last

/-- All that is pushed is among what the subscriber sees. -/
theorem pushed_seen (id : Nat) (acts : List (Act φ)) :
    (seen id acts).filterMap Seen.pushed? = pushes acts := by
  rw [seen, List.filterMap_filterMap, pushes]
  congr 1
  funext a
  cases a with
  | push _ | subscribe | unsubscribe _ => rfl
  | receive asker =>
      rw [Act.seen?]
      split <;> rfl

/-- A subscriber from the moment of its subscription on. -/
theorem told_subscribed (capacity : Nat) (earlier later : List (Act φ)) :
    let log : FailureLog φ := play earlier { capacity }
    let id := log.subscribe.1
    .unsubscribe id ∉ later →
      told id later log.subscribe.2 = toldAlong [] (seen id later) ∧
      ((play later log.subscribe.2).receive id).1 = (tell (lineAfter [] (seen id later))).1 := by
  intro log id stays
  have fed : log.Fed (pushes earlier) := fed_play (fed_new capacity) earlier
  obtain ⟨told, has⟩ := (fed_subscribe fed).told_eq fed.hasLine_subscribe stays
  exact ⟨told, ((fed_play (fed_subscribe fed) later).tells has).1⟩

/-- Whatever is done with a log, from a subscription on: the answers account for the pushes one
after the other, up to those that still wait. -/
theorem pushes_accounted (capacity : Nat) (earlier later : List (Act φ)) :
    let log : FailureLog φ := play earlier { capacity }
    let id := log.subscribe.1
    let answers := told id later log.subscribe.2
    let next := ((play later log.subscribe.2).receive id).1
    .unsubscribe id ∉ later →
      (answers.filterMap Received.failure?).Sublist (pushes later) ∧
      (∃ covered waiting, pushes later = covered.flatten ++ waiting ∧
        List.Forall₂ Received.Covers answers covered ∧
        (next = .empty ↔ waiting = []) ∧
        (∀ failure, next = .next failure ↔ waiting.head? = some failure ∧ waiting.length ≤ 256) ∧
        ∀ missed, next = .lagged missed ↔ waiting.length = missed + 256 ∧ 0 < missed) ∧
      (∃ n, ((play (later ++ List.replicate n (.receive id)) log.subscribe.2).receive id).1 =
        .empty) ∧
      ∀ (capacity' : Nat) (earlier' later' : List (Act φ)),
        let log' : FailureLog φ := play earlier' { capacity := capacity' }
        let id' := log'.subscribe.1
        .unsubscribe id' ∉ later' → seen id' later' = seen id later →
          told id' later' log'.subscribe.2 = answers := by
  intro log id answers next stays
  obtain ⟨told, after⟩ := told_subscribed capacity earlier later stays
  obtain ⟨covered, parts, covers⟩ := covers_toldAlong [] (seen id later)
  rw [pushed_seen, List.nil_append] at parts
  rw [← told] at covers
  refine ⟨?_, ⟨covered, _, parts, covers, ?_, fun failure => ?_, fun missed => ?_⟩, ?_, ?_⟩
  · rw [parts]
    exact (Received.failures_sublist covers).trans (List.sublist_append_left _ _)
  · exact (Eq.congr_left after).trans tell_eq_empty_iff
  · exact (Eq.congr_left after).trans tell_eq_next_iff
  · exact (Eq.congr_left after).trans tell_eq_lagged_iff
  · obtain ⟨n, drained⟩ := exists_drained (lineAfter [] (seen id later))
    have asking : seen id (later ++ List.replicate n (.receive id)) =
        seen id later ++ List.replicate n .asked := by
      simp [seen, Act.seen?]
    have stays' : Act.unsubscribe id ∉ later ++ List.replicate n (.receive id) := by
      simp [stays]
    refine ⟨n, (told_subscribed capacity earlier _ stays').2.trans ?_⟩
    rw [asking, lineAfter_append, drained]
    rfl
  · intro capacity' earlier' later' log' id' stays' same
    rw [(told_subscribed capacity' earlier' later' stays').1, same, ← told]

/-- Of 258 failures two are missed; another log, with room for a history and with another
subscriber, makes no difference. -/
theorem pushes_accounted_lagging :
    let pushed : List (Act Nat) := (List.range 258).map .push
    let later := pushed ++ [.receive 1, .receive 0, .receive 1]
    let later' := pushed ++ [.subscribe, .receive 0, .unsubscribe 1, .receive 0]
    let log : FailureLog Nat := (play [.subscribe, .push 7] { capacity := 0 }).subscribe.2
    let log' : FailureLog Nat := (play [] { capacity := 5 }).subscribe.2
    .unsubscribe 1 ∉ later ∧ .unsubscribe 0 ∉ later' ∧ seen 0 later' = seen 1 later ∧
      told 1 later log = [.lagged 2, .next 2] ∧ told 0 later' log' = told 1 later log ∧
      ∃ covered waiting, pushes later = covered.flatten ++ waiting ∧
        List.Forall₂ Received.Covers (told 1 later log) covered := by
  intro pushed later later' log log'
  have stays : .unsubscribe 1 ∉ later := by decide +kernel
  have stays' : .unsubscribe 0 ∉ later' := by decide +kernel
  have same : seen 0 later' = seen 1 later := by decide +kernel
  have lagging : told 1 later log = [.lagged 2, .next 2] := by
    have along := (told_subscribed 0 [.subscribe, .push 7] later stays).1
    have own : seen 1 later = (List.range 258).map .pushed ++ [.asked, .asked] := by
      decide +kernel
    refine along.trans ((congrArg (toldAlong []) own).trans ?_)
    rw [toldAlong_pushed]
    decide +kernel
  obtain ⟨-, ⟨covered, waiting, parts, covers, -⟩, -, others⟩ :=
    pushes_accounted 0 [.subscribe, .push 7] later stays
  exact ⟨stays, stays', same, lagging, others 5 [] later' stays' same, covered, waiting, parts,
    covers⟩

end FailureLog
end ProjectDesk
