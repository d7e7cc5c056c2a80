import Mathlib.Data.List.Forall2
import ProjectDesk.Store.Statement

/-!
Bringing an owner's name up to date. Updates that leave nothing for themselves to do are done at
once, and updates that keep out of each other's way can be made in either order; the owner's name is
a case of both. Counted are the rows that are not as they were.
-/

namespace ProjectDesk

variable {ownerId : Int} {ownerName : String} {r : Request}

/-- A live request of the owner that shows another name. -/
structure Request.Outdated (ownerId : Int) (ownerName : String) (r : Request) : Prop where
  live : r.deleted = false
  owner : r.ownerId = ownerId
  other : r.ownerName ≠ ownerName

namespace Store

variable {s : Store} {test test' : Request → Bool} {change change' : Request → Request}

/-- Row by row, in their order. -/
theorem update_rows (s : Store) (test : Request → Bool) (change : Request → Request) :
    List.Forall₂ (fun r r' => (test r = true → r' = change r) ∧ (test r = false → r' = r)) s.rows
      (s.update test change).2.rows := by
  refine List.forall₂_map_right_iff.mpr (List.forall₂_same.mpr fun r _ => ?_)
  exact ⟨fun chosen => if_pos chosen, fun passed => if_neg (Bool.eq_false_iff.mp passed)⟩

/-- Where every change shows, the number told is that of the rows that are not as they were. -/
theorem update_count (s : Store) (shows : ∀ r, test r = true → change r ≠ r) :
    (s.update test change).1 =
      ((s.rows.zip (s.update test change).2.rows).filter fun p => p.1 ≠ p.2).length := by
  unfold update
  dsimp only
  induction s.rows with
  | nil => rfl
  | cons r rows ih =>
      rw [List.map_cons, List.zip_cons_cons]
      by_cases chosen : test r = true
      · have differs : r ≠ change r := (shows r chosen).symm
        rw [List.countP_cons_of_pos chosen, if_pos chosen, List.filter_cons_of_pos (by simpa),
          List.length_cons, ih]
      · rw [List.countP_cons_of_neg chosen, if_neg chosen, List.filter_cons_of_neg (by simp), ih]

theorem update_of_none (none : ∀ r ∈ s.rows, test r = false) : s.update test change = (0, s) := by
  have counted : s.rows.countP test = 0 :=
    List.countP_eq_zero.mpr fun r hr => Bool.eq_false_iff.mp (none r hr)
  have same : (s.rows.map fun r => if test r then change r else r) = s.rows :=
    (List.map_congr_left fun r hr => if_neg (Bool.eq_false_iff.mp (none r hr))).trans
      (List.map_id s.rows)
  rw [update, counted, same]

/-- What was changed is not changed again. -/
theorem update_again (s : Store) (settles : ∀ r, test r = true → test (change r) = false) :
    (s.update test change).2.update test change = (0, (s.update test change).2) := by
  refine update_of_none fun r' hr' => ?_
  obtain ⟨r, -, rfl⟩ := List.mem_map.mp hr'
  split
  · exact settles r ‹_›
  · exact Bool.eq_false_iff.mpr ‹_›

/-- The second test passes over what the first update is made for, before and after it. -/
def KeepsClear (test : Request → Bool) (change : Request → Request) (test' : Request → Bool) :
    Prop :=
  ∀ r, test r = true → test' r = false ∧ test' (change r) = false

theorem update_fst_update (s : Store) (clear : KeepsClear test change test') :
    ((s.update test change).2.update test' change').1 = (s.update test' change').1 := by
  simp only [update, List.countP_map]
  refine List.countP_congr fun r _ => ?_
  rw [Function.comp_apply]
  split
  · obtain ⟨before, after⟩ := clear r ‹_›
    rw [before, after]
  · rfl

theorem update_snd_update (s : Store) (clear : KeepsClear test change test')
    (clear' : KeepsClear test' change' test) :
    ((s.update test change).2.update test' change').2 =
      ((s.update test' change').2.update test change).2 := by
  simp only [update, List.map_map, mk.injEq, and_true]
  refine List.map_congr_left fun r _ => ?_
  simp only [Function.comp_apply]
  -- At most one of the two updates is for the row.
  by_cases chosen : test r = true
  · obtain ⟨before, after⟩ := clear r chosen
    simp [chosen, before, after]
  · by_cases chosen' : test' r = true
    · obtain ⟨before, after⟩ := clear' r chosen'
      simp [chosen', before, after]
    · simp [chosen, chosen']

/-- Either may be made first. -/
theorem update_update (s : Store) (clear : KeepsClear test change test')
    (clear' : KeepsClear test' change' test) :
    (s.update test change).2.update test' change' =
      ((s.update test' change').1, ((s.update test' change').2.update test change).2) :=
  Prod.ext (s.update_fst_update clear) (s.update_snd_update clear clear')

/-! The owner's name. -/

theorem outdated_iff : (!r.deleted && r.ownerId == ownerId && r.ownerName != ownerName) = true ↔
    r.Outdated ownerId ownerName := by
  simp only [Bool.and_eq_true, Bool.not_eq_true', beq_iff_eq, bne_iff_ne]
  exact ⟨fun ⟨⟨live, owner⟩, other⟩ => ⟨live, owner, other⟩, fun h => ⟨⟨h.live, h.owner⟩, h.other⟩⟩

/-- The requests of the owner are brought up to date, and all else is as it was. -/
structure OwnerRenamed (ownerId : Int) (ownerName : String) (s : Store) (changed : Nat)
    (s' : Store) : Prop where
  rows : List.Forall₂ (fun r r' => (r.Outdated ownerId ownerName → r' = { r with ownerName }) ∧
    (¬ r.Outdated ownerId ownerName → r' = r)) s.rows s'.rows
  issued : s'.issued = s.issued
  count : changed = ((s.rows.zip s'.rows).filter fun p => p.1 ≠ p.2).length

theorem renameOwner_renamed (ownerId : Int) (ownerName : String) (s : Store) :
    s.OwnerRenamed ownerId ownerName (s.renameOwner ownerId ownerName).1
      (s.renameOwner ownerId ownerName).2 where
  rows := by
    refine (s.update_rows _ _).imp fun r r' h => ?_
    rw [outdated_iff, ← Bool.not_eq_true, outdated_iff] at h
    exact h
  issued := rfl
  count := by
    refine s.update_count fun r chosen same => ?_
    exact (outdated_iff.mp chosen).other (congrArg Request.ownerName same).symm

theorem renameOwner_again (ownerId : Int) (ownerName : String) (s : Store) :
    (s.renameOwner ownerId ownerName).2.renameOwner ownerId ownerName =
      (0, (s.renameOwner ownerId ownerName).2) :=
  s.update_again fun r _ => by simp

theorem renameOwner_renameOwner {ownerId' : Int} (others : ownerId' ≠ ownerId)
    (ownerName ownerName' : String) (s : Store) :
    (s.renameOwner ownerId ownerName).2.renameOwner ownerId' ownerName' =
      ((s.renameOwner ownerId' ownerName').1,
        ((s.renameOwner ownerId' ownerName').2.renameOwner ownerId ownerName).2) := by
  refine s.update_update (fun r chosen => ?_) fun r chosen => ?_
  · have owner := (outdated_iff.mp chosen).owner
    simp [owner, others.symm]
  · have owner := (outdated_iff.mp chosen).owner
    simp [owner, others]

theorem owner_renamed (s : Store) (ownerId : Int) (ownerName : String) (now : Time.Instant) :
    ∃ changed s', Statement.run now s (.renameOwner ownerId ownerName) = (.ok changed, s') ∧
      s.OwnerRenamed ownerId ownerName changed s' ∧
      (∀ later, Statement.run later s' (.renameOwner ownerId ownerName) = (.ok 0, s')) ∧
      ∀ ownerId' ownerName' later, ownerId' ≠ ownerId → ∃ changed' s₁ s₂,
        Statement.run now s (.renameOwner ownerId' ownerName') = (.ok changed', s₁) ∧
        Statement.run later s' (.renameOwner ownerId' ownerName') = (.ok changed', s₂) ∧
        Statement.run later s₁ (.renameOwner ownerId ownerName) = (.ok changed, s₂) := by
  have run (now : Time.Instant) (s : Store) (ownerId : Int) (ownerName : String) :
      Statement.run now s (.renameOwner ownerId ownerName) =
        (.ok (s.renameOwner ownerId ownerName).1, (s.renameOwner ownerId ownerName).2) := rfl
  refine ⟨_, _, run .., s.renameOwner_renamed .., fun later => ?_, ?_⟩
  · rw [run, renameOwner_again]
  · intro ownerId' ownerName' later others
    let both := ((s.renameOwner ownerId' ownerName').2.renameOwner ownerId ownerName).2
    refine ⟨_, _, both, run .., ?_, ?_⟩
    · rw [run, renameOwner_renameOwner others]
    · rw [run, renameOwner_renameOwner others.symm, renameOwner_renameOwner others]

/-- One of the owners has a request that is up to date already, and one that was deleted. -/
theorem owner_renamed_two_owners :
    let now : Time.Instant := ⟨⟨2026, 6, 1⟩, 12, 0, 0, 0⟩
    let row (id ownerId : Int) (ownerName name : String) (deleted : Bool) : Request :=
      ⟨id, ownerId, ownerName, name, .approved, deleted, .instant now, .instant now⟩
    let s : Store := ⟨[row 1 1 "ann" "alpha" false, row 2 2 "bob" "beta" false,
      row 3 1 "anna" "gamma" false, row 4 1 "ann" "delta#4" true], 4⟩
    let bothRenamed : Store := ⟨[row 1 1 "anna" "alpha" false, row 2 2 "rob" "beta" false,
      row 3 1 "anna" "gamma" false, row 4 1 "ann" "delta#4" true], 4⟩
    (2 : Int) ≠ 1 ∧ ∃ s₁ s₂,
      Statement.run now s (.renameOwner 1 "anna") = (.ok 1, s₁) ∧
      Statement.run now s (.renameOwner 2 "rob") = (.ok 1, s₂) ∧
      Statement.run now s₁ (.renameOwner 1 "anna") = (.ok 0, s₁) ∧
      Statement.run now s₁ (.renameOwner 2 "rob") = (.ok 1, bothRenamed) ∧
      Statement.run now s₂ (.renameOwner 1 "anna") = (.ok 1, bothRenamed) := by
  intro now row s bothRenamed
  obtain ⟨changed, s₁, first, -, again, either⟩ := owner_renamed s 1 "anna" now
  obtain ⟨changed', s₂, both, second, after, after'⟩ := either 2 "rob" now (by decide)
  have told : changed = 1 := by
    cases first
    rfl
  have told' : changed' = 1 := by
    cases second
    rfl
  have renamed : both = bothRenamed := by
    cases first
    cases after
    rfl
  subst told told' renamed
  exact ⟨by decide, s₁, s₂, first, second, again now, after, after'⟩

end Store
end ProjectDesk
