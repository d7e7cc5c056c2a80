import ProjectDesk.Proofs.Store.Soundness

/-!
Which requests a database still has a decision to make on. A decision is written exactly there, and
where there is none to make nothing changes.
-/

namespace ProjectDesk

namespace Database

variable {db : Database} {id : Int} {time : Time.Instant} {after : Status} {current : Request}

/-- It is open, and a live request of this id is undecided. -/
def Awaits (db : Database) (id : Int) : Prop :=
  db.closed = false ∧
    ∃ row ∈ db.store.rows, row.id = id ∧ row.deleted = false ∧ row.status = .notDetermined

theorem perform_closed (closed : db.closed = true) (s : Statement) :
    db.perform time s = (.error .closed, db) := by
  rw [perform, if_pos closed]

theorem perform_open (isOpen : db.closed = false) (s : Statement) :
    db.perform time s = ((s.run time db.store).1, { db with store := (s.run time db.store).2 }) := by
  rw [perform, isOpen, if_neg Bool.false_ne_true]

theorem transition_answer (isOpen : db.closed = false) (id : Int) (after : Status) :
    (db.perform time (.transition id .notDetermined after)).1 =
      .ok (db.store.rows.countP fun r => Store.liveAt id r && r.status == .notDetermined) := by
  rw [perform_open isOpen]
  rfl

theorem chosen_iff {r : Request} :
    (Store.liveAt id r && r.status == .notDetermined) = true ↔
      r.id = id ∧ r.deleted = false ∧ r.status = .notDetermined := by
  rw [Bool.and_eq_true, Store.liveAt_iff, beq_iff_eq, and_comm (a := r.deleted = false), and_assoc]

theorem awaits_iff_countP_pos (isOpen : db.closed = false) :
    db.Awaits id ↔
      0 < db.store.rows.countP fun r => Store.liveAt id r && r.status == .notDetermined := by
  simp only [Awaits, isOpen, true_and, List.countP_pos_iff, chosen_iff]

/-- A decision is written exactly where one is awaited. -/
theorem awaits_iff_written :
    db.Awaits id ↔
      ∃ n, (db.perform time (.transition id .notDetermined after)).1 = .ok (n + 1) := by
  cases closed : db.closed with
  | true =>
      rw [perform_closed closed]
      refine ⟨fun awaits => ?_, fun ⟨n, written⟩ => nomatch written⟩
      exact absurd (closed.symm.trans awaits.1) (by decide)
  | false =>
      rw [transition_answer closed, awaits_iff_countP_pos closed, ← Nat.exists_eq_add_one]
      simp only [Except.ok.injEq]

/-- What was written is there. -/
theorem Awaits.written (awaits : db.Awaits id) (time : Time.Instant)
    (terminal : after.isTerminal = true) :
    ∃ row ∈ (db.perform time (.transition id .notDetermined after)).2.store.rows,
      row.id = id ∧ row.status = after := by
  obtain ⟨n, written⟩ := awaits_iff_written.mp awaits
  rw [perform_open awaits.1] at written ⊢
  have lawful : (Statement.transition id .notDetermined after).Lawful := ⟨rfl, terminal⟩
  exact (Statement.rows_of_decision lawful (by rw [written]; rfl)).2.1

end Database
end ProjectDesk
