import Mathlib.Data.List.Nodup
import ProjectDesk.Proofs.Store.Amendment

/-!
Stores as statements make them: no id is given twice, and the times are the store's own, so that
every record is handed out as it is kept. Over such stores a record can be followed by its id, and
the one statement that can have decided it is known by its answer.
-/

namespace ProjectDesk
namespace Store

variable {s s' s'' : Store} {r r' : Request} {id : Int} {time : Time.Instant}

structure Sound (s : Store) : Prop where
  distinct : (s.rows.map (·.id)).Nodup
  issued : ∀ r ∈ s.rows, r.id ≤ s.issued
  stamped : ∀ r ∈ s.rows, r.Stamped

theorem Sound.empty : Sound {} := ⟨List.nodup_nil, by simp, by simp⟩

theorem Advances.sound (h : s.Advances s') (sound : s.Sound) : s'.Sound := by
  cases h with
  | amended change amends stamped =>
      refine ⟨?_, ?_, ?_⟩
      · have ids : (s.rows.map change).map (·.id) = s.rows.map (·.id) := by
          rw [List.map_map]
          exact List.map_congr_left fun r _ => (amends r).id
        rw [ids]
        exact sound.distinct
      · intro r' hr'
        obtain ⟨r, hr, rfl⟩ := List.mem_map.mp hr'
        rw [(amends r).id]
        exact sound.issued r hr
      · intro r' hr'
        obtain ⟨r, hr, rfl⟩ := List.mem_map.mp hr'
        exact stamped r (sound.stamped r hr)
  | grown row id undecided live stamped =>
      refine ⟨?_, ?_, ?_⟩
      · rw [List.map_append, List.nodup_append]
        refine ⟨sound.distinct, by simp, ?_⟩
        intro a ha b hb
        obtain ⟨r, hr, rfl⟩ := List.mem_map.mp ha
        have bound := sound.issued r hr
        simp only [List.map_cons, List.map_nil, List.mem_singleton] at hb
        omega
      · intro r hr
        rcases List.mem_append.mp hr with hr | hr
        · have bound := sound.issued r hr
          simp only
          omega
        · rw [List.mem_singleton.mp hr, id]
          simp
      · intro r hr
        rcases List.mem_append.mp hr with hr | hr
        · exact sound.stamped r hr
        · rw [List.mem_singleton.mp hr]
          exact stamped

theorem Sound.eq_of_id (sound : s.Sound) (hr : r ∈ s.rows) (hr' : r' ∈ s.rows)
    (same : r.id = r'.id) : r = r' :=
  List.inj_on_of_nodup_map sound.distinct hr hr' same

theorem Sound.findAny_eq_some_iff (sound : s.Sound) :
    s.findAny id = some r ↔ r ∈ s.rows ∧ r.id = id := by
  constructor
  · intro h
    exact ⟨List.mem_of_find?_eq_some h, by simpa using List.find?_some h⟩
  · rintro ⟨hr, rfl⟩
    cases found : s.findAny r.id with
    | none => simpa using List.find?_eq_none.mp found r hr
    | some r' =>
        rw [sound.eq_of_id hr (List.mem_of_find?_eq_some found)]
        have chosen : r'.id = r.id := by simpa using List.find?_some found
        exact chosen.symm

theorem Sound.findLive_eq_some_iff (sound : s.Sound) :
    s.findLive id = some r ↔ r ∈ s.rows ∧ r.id = id ∧ r.deleted = false := by
  constructor
  · intro h
    have chosen := liveAt_iff.mp (List.find?_some h)
    exact ⟨List.mem_of_find?_eq_some h, chosen.2, chosen.1⟩
  · rintro ⟨hr, rfl, live⟩
    have chosen : liveAt r.id r = true := liveAt_iff.mpr ⟨live, rfl⟩
    cases found : s.findLive r.id with
    | none => exact absurd chosen (List.find?_eq_none.mp found r hr)
    | some r' =>
        rw [sound.eq_of_id hr (List.mem_of_find?_eq_some found)]
        exact (liveAt_iff.mp (List.find?_some found)).2.symm

/-- What is found is handed out as it is kept. -/
theorem Sound.mapM_handOut (sound : s.Sound) {found : Option Request}
    (within : ∀ r, found = some r → r ∈ s.rows) : found.mapM Request.handOut = .ok found := by
  cases found with
  | none => rfl
  | some r =>
      simp only [Option.mapM_some, (sound.stamped r (within r rfl)).handOut]
      rfl

theorem Sound.findLive_handOut (sound : s.Sound) :
    (s.findLive id).mapM Request.handOut = .ok (s.findLive id) :=
  sound.mapM_handOut fun _ => List.mem_of_find?_eq_some

/-- Where a record goes. -/
theorem Advances.follow (h : s.Advances s') (hr : r ∈ s.rows) :
    ∃ r' ∈ s'.rows, r.Amends r' := by
  cases h with
  | amended change amends stamped => exact ⟨change r, List.mem_map_of_mem hr, amends r⟩
  | grown row id undecided live stamped =>
      exact ⟨r, List.mem_append_left _ hr, .refl r⟩

/-- Where a record comes from. -/
theorem Advances.origin (h : s.Advances s') (hr' : r' ∈ s'.rows) :
    (∃ r ∈ s.rows, r.Amends r') ∨
      (r'.id = s.issued + 1 ∧ r'.status = .notDetermined ∧ r'.deleted = false) := by
  cases h with
  | amended change amends stamped =>
      obtain ⟨r, hr, rfl⟩ := List.mem_map.mp hr'
      exact .inl ⟨r, hr, amends r⟩
  | grown row id undecided live stamped =>
      rcases List.mem_append.mp hr' with hr | hr
      · exact .inl ⟨r', hr, .refl r'⟩
      · rw [List.mem_singleton.mp hr]
        exact .inr ⟨id, undecided, live⟩

/-- Every record of the first store is found again in the second. -/
def Precedes (s s' : Store) : Prop :=
  ∀ r ∈ s.rows, ∃ r' ∈ s'.rows, r.Precedes r'

theorem Precedes.refl (s : Store) : s.Precedes s := fun r hr => ⟨r, hr, .refl r⟩

theorem Precedes.trans (h : s.Precedes s') (h' : s'.Precedes s'') : s.Precedes s'' := by
  intro r hr
  obtain ⟨r', hr', first⟩ := h r hr
  obtain ⟨r'', hr'', second⟩ := h' r' hr'
  exact ⟨r'', hr'', first.trans second⟩

theorem Advances.precedes (h : s.Advances s') : s.Precedes s' := by
  intro r hr
  obtain ⟨r', hr', amends⟩ := h.follow hr
  exact ⟨r', hr', amends.precedes⟩

/-- The record of an id, in a later store. -/
theorem Precedes.at_id (h : s.Precedes s') (sound : s'.Sound) (hr : r ∈ s.rows)
    (hr' : r' ∈ s'.rows) (same : r'.id = r.id) : r.Precedes r' := by
  obtain ⟨later, member, precedes⟩ := h r hr
  rwa [sound.eq_of_id hr' member (same.trans precedes.id.symm)]

/-- A record that is not what it was has been changed by the statement. -/
theorem Effect.cause {st : Statement} {new : Option Origin} (h : s.Effect time st new s')
    (sound : s.Sound) (hr : r ∈ s.rows) (hr' : r' ∈ s'.rows) (same : r'.id = r.id) :
    r' = r ∨ r.Changes time st r' := by
  cases h with
  | changed change changes =>
      obtain ⟨origin, member, rfl⟩ := List.mem_map.mp hr'
      have kept : origin.id = r.id := by
        rw [← same]
        rcases changes origin with unchanged | changes
        · rw [unchanged]
        · exact changes.id.symm
      rw [sound.eq_of_id member hr kept]
      exact changes r
  | added _ _ made =>
      rcases List.mem_append.mp hr' with kept | fresh
      · exact .inl (sound.eq_of_id kept hr same)
      · -- The id of the new record is free.
        have bound := sound.issued r hr
        rw [← same, List.mem_singleton.mp fresh, made] at bound
        simp only at bound
        omega

end Store

namespace Statement

variable {s : Store} {r r' : Request} {id : Int} {decision : Status} {time : Time.Instant}

/-- The decision that a statement has written, as its answer tells. -/
def decision? : (st : Statement) → st.Answer → Option (Int × Status)
  | .transition id _ after, .ok (_ + 1) => some (id, after)
  | _, _ => none

theorem decision?_transition {before after : Status} {changed : Nat} :
    (Statement.transition id before after).decision? (.ok changed) =
      if changed = 0 then none else some (id, after) := by
  cases changed <;> rfl

/-- A status that has changed was changed by the statement whose answer tells so. -/
theorem decision_of_status_ne {st : Statement} (sound : s.Sound) (hr : r ∈ s.rows)
    (hr' : r' ∈ (st.run time s).2.rows) (same : r'.id = r.id) (changed : r'.status ≠ r.status) :
    st.decision? (st.run time s).1 = some (r.id, r'.status) := by
  rcases (st.effect time s).cause sound hr hr' same with rfl | changes
  · exact absurd rfl changed
  · cases changes with
    | decided live =>
        have counted :
            0 < s.rows.countP fun r' => Store.liveAt r.id r' && r'.status == r.status := by
          refine List.countP_pos_iff.mpr ⟨r, hr, ?_⟩
          rw [Bool.and_eq_true, Store.liveAt_iff, beq_iff_eq]
          exact ⟨⟨live, rfl⟩, rfl⟩
        change decision? _ (Except.ok _) = _
        rw [decision?_transition, if_neg (Nat.pos_iff_ne_zero.mp counted)]
    | ownerRenamed _ _ | buried _ => exact absurd rfl changed

/-- A decision that was written found its record undecided, and left it decided. -/
theorem rows_of_decision {st : Statement} (lawful : st.Lawful)
    (h : st.decision? (st.run time s).1 = some (id, decision)) :
    (∃ r ∈ s.rows, r.id = id ∧ r.status = .notDetermined) ∧
      (∃ r ∈ (st.run time s).2.rows, r.id = id ∧ r.status = decision) ∧
      decision.isTerminal = true := by
  cases st with
  | insert _ | findLive _ | findAny _ | findNamed _ | list _ | count _ | renameOwner _ _
  | softDelete _ => cases h
  | transition target before after =>
      obtain ⟨rfl, terminal⟩ := lawful
      change decision? _ (Except.ok _) = _ at h
      rw [decision?_transition] at h
      split at h
      · cases h
      · rename_i counted
        cases h
        obtain ⟨r, hr, passes⟩ := List.countP_pos_iff.mp (Nat.pos_of_ne_zero counted)
        have chosen := passes
        rw [Bool.and_eq_true, Store.liveAt_iff, beq_iff_eq] at chosen
        refine ⟨⟨r, hr, chosen.1.2, chosen.2⟩, ⟨_, List.mem_map_of_mem hr, ?_⟩, terminal⟩
        rw [if_pos passes]
        exact ⟨chosen.1.2, rfl⟩

/-- Where no decision could be written, no live record of that id was undecided. -/
theorem status_of_no_row {after : Status}
    (h : (Statement.run time s (.transition id .notDetermined after)).1 = .ok 0) (hr : r ∈ s.rows)
    (same : r.id = id) (live : r.deleted = false) : r.status ≠ .notDetermined := by
  intro undecided
  have none := List.countP_eq_zero.mp (Except.ok.inj h) r hr
  rw [Bool.and_eq_true, Store.liveAt_iff, beq_iff_eq] at none
  exact none ⟨⟨live, same⟩, undecided⟩

end Statement
end ProjectDesk
