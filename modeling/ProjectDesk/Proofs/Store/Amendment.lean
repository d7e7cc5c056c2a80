import ProjectDesk.Store.Statement

/-!
What statements do to the records of a store. A record is changed in a few ways only: it is decided,
its owner's display name is brought up to date, or it turns into a tombstone, and only while it is
live. That is said once for every statement (`Statement.effect`), and what else is known of a change
follows from it. What holds of every single amendment is `Amends`; what is left of it over many of
them is `Precedes`.
-/

namespace ProjectDesk

/-- A record as it was made, and what it was made from. -/
structure Origin where
  draft : Draft
  row : Request

/-- What was made by a statement, as its answer tells. -/
def Statement.made? : (st : Statement) → st.Answer → Option Origin
  | .insert draft, .ok row => some ⟨draft, row⟩
  | _, _ => none

/-- How a statement changes a record, if it does. -/
inductive Request.Changes (time : Time.Instant) (r : Request) : Statement → Request → Prop
  | decided {after : Status} (live : r.deleted = false) :
      Changes time r (.transition r.id r.status after)
        { r with status := after, updatedAt := .instant time }
  | ownerRenamed {ownerName : String} (live : r.deleted = false) (other : r.ownerName ≠ ownerName) :
      Changes time r (.renameOwner r.ownerId ownerName) { r with ownerName }
  | buried (live : r.deleted = false) :
      Changes time r (.softDelete r.id) (Store.tombstone time r)

theorem Request.Changes.id {time : Time.Instant} {r r' : Request} {st : Statement}
    (h : r.Changes time st r') : r'.id = r.id := by
  cases h <;> rfl

namespace Store

variable {s s' : Store} {id : Int} {r : Request} {time : Time.Instant} {st : Statement}

/-- What becomes of a store: some of its records are changed, or one is added. -/
inductive Effect (time : Time.Instant) (s : Store) (st : Statement) : Option Origin → Store → Prop
  | changed (change : Request → Request)
      (changes : ∀ r, change r = r ∨ Request.Changes time r st (change r)) :
      Effect time s st none { s with rows := s.rows.map change }
  | added {draft : Draft} {row : Request} (asked : st = .insert draft)
      (free : ∀ r ∈ s.rows, r.deleted = false → r.name ≠ draft.name)
      (made : row =
        { id := s.issued + 1, ownerId := draft.ownerId, ownerName := draft.ownerName,
          name := draft.name, status := .notDetermined, deleted := false,
          createdAt := .instant time, updatedAt := .instant time }) :
      Effect time s st (some ⟨draft, row⟩) ⟨s.rows ++ [row], s.issued + 1⟩

theorem Effect.asked {new : Option Origin} {o : Origin} (h : s.Effect time st new s')
    (made : new = some o) : st = .insert o.draft := by
  cases h with
  | changed _ _ => cases made
  | added asked _ _ =>
      cases made
      exact asked

theorem Effect.same (time : Time.Instant) (s : Store) (st : Statement) : s.Effect time st none s := by
  have h : s.Effect time st none { s with rows := s.rows.map fun r => r } :=
    .changed (fun r => r) fun _ => .inl rfl
  simpa using h

theorem liveAt_iff : liveAt id r = true ↔ r.deleted = false ∧ r.id = id := by
  simp [liveAt]

theorem update_effect {test : Request → Bool} {change : Request → Request}
    (changes : ∀ r, test r = true → Request.Changes time r st (change r)) :
    s.Effect time st none (s.update test change).2 := by
  refine .changed (fun r => if test r then change r else r) fun r => ?_
  split
  · exact .inr (changes r ‹_›)
  · exact .inl rfl

theorem insert_effect (draft : Draft) :
    s.Effect time (.insert draft) ((Statement.insert draft).made? (s.insert draft time).1)
      (s.insert draft time).2 := by
  unfold insert
  split
  · exact .same time s _
  · rename_i free
    refine .added rfl ?_ rfl
    intro r hr live same
    refine free (List.any_eq_true.mpr ⟨r, hr, ?_⟩)
    rw [liveNamed, live, Bool.not_false, Bool.true_and, beq_iff_eq]
    exact same

theorem softDelete_effect : s.Effect time (.softDelete id) none (s.softDelete id time).2 := by
  unfold softDelete
  split
  · exact .same time s _
  · refine update_effect fun r chosen => ?_
    obtain ⟨live, rfl⟩ := liveAt_iff.mp chosen
    exact .buried live

end Store

/-- Everything that a statement can do to a store. -/
theorem Statement.effect (st : Statement) (time : Time.Instant) (s : Store) :
    s.Effect time st (st.made? (st.run time s).1) (st.run time s).2 := by
  cases st with
  | insert draft => exact Store.insert_effect draft
  | findLive _ | findAny _ | findNamed _ | list _ | count _ => exact .same time s _
  | transition id before after =>
      refine Store.update_effect fun r chosen => ?_
      rw [Bool.and_eq_true, Store.liveAt_iff, beq_iff_eq] at chosen
      obtain ⟨⟨live, rfl⟩, rfl⟩ := chosen
      exact .decided live
  | renameOwner ownerId ownerName =>
      refine Store.update_effect fun r chosen => ?_
      simp only [Bool.and_eq_true, Bool.not_eq_true', beq_iff_eq, bne_iff_ne] at chosen
      obtain ⟨⟨live, rfl⟩, other⟩ := chosen
      exact .ownerRenamed live other
  | softDelete id =>
      have none (answer : (Statement.softDelete id).Answer) :
          (Statement.softDelete id).made? answer = none := by
        cases answer <;> rfl
      rw [none]
      simp only [run]
      split
      · exact .same time s _
      · exact Store.softDelete_effect

namespace Request

/-- What one statement may do to a record. -/
structure Amends (before after : Request) : Prop where
  id : after.id = before.id
  ownerId : after.ownerId = before.ownerId
  createdAt : after.createdAt = before.createdAt
  status : after.status ≠ before.status →
    before.status = .notDetermined ∧ after.status.isTerminal = true ∧
      before.deleted = false ∧ after.deleted = false
  deleted : before.deleted = true → after = before
  name : after.name ≠ before.name → before.deleted = false ∧ after.deleted = true

/-- What many statements, one after the other, may do to a record. -/
structure Precedes (earlier later : Request) : Prop where
  id : later.id = earlier.id
  ownerId : later.ownerId = earlier.ownerId
  createdAt : later.createdAt = earlier.createdAt
  decided : earlier.status ≠ .notDetermined → later.status = earlier.status
  deleted : earlier.deleted = true → later = earlier
  name : later.deleted = false → later.name = earlier.name

theorem Amends.refl (r : Request) : r.Amends r :=
  ⟨rfl, rfl, rfl, fun h => absurd rfl h, fun _ => rfl, fun h => absurd rfl h⟩

theorem Amends.precedes {r r' : Request} (h : r.Amends r') : r.Precedes r' where
  id := h.id
  ownerId := h.ownerId
  createdAt := h.createdAt
  decided := by
    intro decided
    by_cases same : r'.status = r.status
    · exact same
    · exact absurd (h.status same).1 decided
  deleted := h.deleted
  name := by
    intro live
    by_cases same : r'.name = r.name
    · exact same
    · simp [(h.name same).2] at live

theorem Precedes.refl (r : Request) : r.Precedes r := (Amends.refl r).precedes

theorem Precedes.trans {a b c : Request} (ab : a.Precedes b) (bc : b.Precedes c) :
    a.Precedes c where
  id := bc.id.trans ab.id
  ownerId := bc.ownerId.trans ab.ownerId
  createdAt := bc.createdAt.trans ab.createdAt
  decided := by
    intro decided
    have same := ab.decided decided
    rw [bc.decided (by rw [same]; exact decided), same]
  deleted := by
    intro gone
    have same := ab.deleted gone
    rw [bc.deleted (by rw [same]; exact gone), same]
  name := by
    intro live
    cases gone : b.deleted with
    | false => rw [bc.name live, ab.name gone]
    | true =>
        rw [bc.deleted gone, gone] at live
        cases live

/-- Who is live has always been. -/
theorem Precedes.live {r r' : Request} (h : r.Precedes r') (live : r'.deleted = false) :
    r.deleted = false := by
  cases gone : r.deleted with
  | false => rfl
  | true =>
      rw [h.deleted gone, gone] at live
      cases live

/-- The times are the store's own. -/
def Stamped (r : Request) : Prop :=
  (∃ t, r.createdAt = .instant t) ∧ ∃ t, r.updatedAt = .instant t

theorem Stamped.handOut {r : Request} (h : r.Stamped) : r.handOut = .ok r := by
  obtain ⟨⟨t, ht⟩, u, hu⟩ := h
  cases r
  subst ht hu
  rfl

end Request

/-- Decisions are the only changes of status that are asked for. -/
def Statement.Lawful : Statement → Prop
  | .transition _ before after => before = .notDetermined ∧ after.isTerminal = true
  | _ => True

namespace Store

variable {s : Store}

/-- What a statement may do to a store: amend the records there are, or add a new one. -/
inductive Advances (s : Store) : Store → Prop
  | amended (change : Request → Request) (amends : ∀ r, Request.Amends r (change r))
      (stamped : ∀ r, Request.Stamped r → (change r).Stamped) :
      Advances s { s with rows := s.rows.map change }
  | grown (row : Request) (id : row.id = s.issued + 1) (undecided : row.status = .notDetermined)
      (live : row.deleted = false) (stamped : row.Stamped) :
      Advances s ⟨s.rows ++ [row], s.issued + 1⟩

theorem Advances.same (s : Store) : s.Advances s := by
  have h : s.Advances { s with rows := s.rows.map fun r => r } :=
    .amended (fun r => r) Request.Amends.refl fun _ stamped => stamped
  simpa using h

end Store

namespace Request

variable {r r' : Request} {time : Time.Instant} {st : Statement}

theorem Changes.amends (h : r.Changes time st r') (lawful : st.Lawful) : r.Amends r' := by
  cases h with
  | decided live =>
      obtain ⟨undecided, terminal⟩ := lawful
      exact ⟨rfl, rfl, rfl, fun _ => ⟨undecided, terminal, live, live⟩,
        fun gone => by simp [live] at gone, fun h => absurd rfl h⟩
  | ownerRenamed live _ =>
      exact ⟨rfl, rfl, rfl, fun h => absurd rfl h, fun gone => by simp [live] at gone,
        fun h => absurd rfl h⟩
  | buried live =>
      exact ⟨rfl, rfl, rfl, fun h => absurd rfl h, fun gone => by simp [live] at gone,
        fun _ => ⟨live, rfl⟩⟩

theorem Changes.stamped (h : r.Changes time st r') (stamped : r.Stamped) : r'.Stamped := by
  cases h with
  | decided _ | buried _ => exact ⟨stamped.1, time, rfl⟩
  | ownerRenamed _ _ => exact stamped

end Request

theorem Store.Effect.advances {s s' : Store} {time : Time.Instant} {st : Statement}
    {new : Option Origin} (h : s.Effect time st new s') (lawful : st.Lawful) : s.Advances s' := by
  cases h with
  | changed change changes =>
      refine .amended change ?_ ?_
      · intro r
        rcases changes r with same | changes
        · rw [same]
          exact .refl r
        · exact changes.amends lawful
      · intro r stamped
        rcases changes r with same | changes
        · rw [same]
          exact stamped
        · exact changes.stamped stamped
  | added _ _ made =>
      subst made
      exact .grown _ rfl rfl rfl ⟨⟨time, rfl⟩, time, rfl⟩

theorem Statement.advances {st : Statement} (lawful : st.Lawful) (time : Time.Instant)
    (s : Store) : s.Advances (st.run time s).2 :=
  (st.effect time s).advances lawful

end ProjectDesk
