import Mathlib.Data.List.Pairwise
import ProjectDesk.Proofs.Store.Origin
import ProjectDesk.Proofs.Store.Soundness

/-!
Who has a name. A live request keeps its name to itself: no other can be made under it. Deleting the
request is the one way to free the name, and making a request under it the one way to take it again.
-/

namespace ProjectDesk

variable {s s' : Store} {name : String} {id : Int} {time : Time.Instant} {r : Request}

namespace Store

/-- No live request has the name. -/
def Free (name : String) (s : Store) : Prop :=
  ∀ r ∈ s.rows, r.deleted = false → r.name ≠ name

theorem liveNamed_iff : liveNamed name r = true ↔ r.deleted = false ∧ r.name = name := by
  simp [liveNamed]

theorem any_liveNamed_iff : s.rows.any (liveNamed name) = true ↔ ¬ s.Free name := by
  simp only [List.any_eq_true, liveNamed_iff, Free, not_forall, not_not, exists_prop]

theorem findNamed_of_free (free : s.Free name) : s.findNamed name = none := by
  refine List.find?_eq_none.mpr fun r hr chosen => ?_
  obtain ⟨live, same⟩ := liveNamed_iff.mp chosen
  exact free r hr live same

/-! What insertion and deletion come to. -/

theorem insert_of_free {draft : Draft} (free : s.Free draft.name) :
    s.insert draft time =
      let row : Request :=
        { id := s.issued + 1, ownerId := draft.ownerId, ownerName := draft.ownerName,
          name := draft.name, status := .notDetermined, deleted := false,
          createdAt := .instant time, updatedAt := .instant time }
      (.ok row, ⟨s.rows ++ [row], s.issued + 1⟩) :=
  if_neg fun taken => any_liveNamed_iff.mp taken free

theorem insert_of_taken {draft : Draft} (taken : ¬ s.Free draft.name) :
    s.insert draft time = (.error .nameTaken, s) :=
  if_pos (any_liveNamed_iff.mpr taken)

theorem Sound.issued_lt (sound : s.Sound) (hr : r ∈ s.rows) : r.id < s.issued + 1 :=
  Int.lt_add_one_of_le (sound.issued r hr)

/-- Of the rows around a live one none is changed with it. -/
theorem Sound.map_liveAt (sound : s.Sound) {before after : List Request}
    (split : s.rows = before ++ r :: after) (live : r.deleted = false)
    (change : Request → Request) :
    (s.rows.map fun row => if liveAt r.id row then change row else row) =
      before ++ change r :: after := by
  have distinct := sound.distinct
  rw [split, List.map_append, List.map_cons, List.nodup_append, List.nodup_cons] at distinct
  obtain ⟨-, ⟨later, -⟩, apart⟩ := distinct
  have others {rows : List Request} (other : ∀ row ∈ rows, row.id ≠ r.id) :
      (rows.map fun row => if liveAt r.id row then change row else row) = rows := by
    refine (List.map_congr_left fun row hrow => if_neg fun chosen => ?_).trans (List.map_id rows)
    exact other row hrow (liveAt_iff.mp chosen).2
  rw [split, List.map_append, List.map_cons, if_pos (liveAt_iff.mpr ⟨live, rfl⟩), others, others]
  · exact fun row hrow same => later (same ▸ List.mem_map_of_mem hrow)
  · exact fun row hrow => apart row.id (List.mem_map_of_mem hrow) r.id (.head _)

theorem Sound.run_softDelete (sound : s.Sound) (hr : r ∈ s.rows) (live : r.deleted = false) :
    Statement.run time s (.softDelete r.id) =
      (.ok (some (tombstone time r)), { s with
        rows := s.rows.map fun row => if liveAt r.id row then tombstone time row else row }) := by
  have found : s.findLive r.id = some r := sound.findLive_eq_some_iff.mpr ⟨hr, rfl, live⟩
  have stamped : (tombstone time r).Stamped := ⟨(sound.stamped r hr).1, time, rfl⟩
  rw [Statement.run, sound.findLive_handOut]
  simp only [softDelete, found, Option.mapM_some, stamped.handOut]
  rfl

theorem run_softDelete_of_none (none : ∀ r ∈ s.rows, r.id = id → r.deleted = true) :
    Statement.run time s (.softDelete id) = (.ok .none, s) := by
  have missing : s.findLive id = .none := by
    refine List.find?_eq_none.mpr fun r hr chosen => ?_
    obtain ⟨live, same⟩ := liveAt_iff.mp chosen
    rw [none r hr same] at live
    cases live
  rw [Statement.run, missing]
  simp only [Option.mapM_none, softDelete, missing]
  rfl

/-! Names that are free, and stay so. -/

theorem Stocked.eq_of_name {made : List Origin} (h : s.Stocked made) {r' : Request}
    (hr : r ∈ s.rows) (hr' : r' ∈ s.rows) (live : r.deleted = false) (live' : r'.deleted = false)
    (same : r.name = r'.name) : r = r' := by
  by_contra apart
  have : Std.Symm fun r r' : Request =>
      r.deleted = false → r'.deleted = false → r.name ≠ r'.name :=
    ⟨fun _ _ names live' live => (names live live').symm⟩
  exact h.unique.forall hr hr' apart live live' same

theorem Stocked.free_of_softDelete {made : List Origin} (h : s.Stocked made) (sound : s.Sound)
    (hr : r ∈ s.rows) (live : r.deleted = false) :
    (Statement.run time s (.softDelete r.id)).2.Free r.name := by
  rw [sound.run_softDelete hr live]
  intro r' hr' live' same
  obtain ⟨row, hrow, rfl⟩ := List.mem_map.mp hr'
  by_cases chosen : liveAt r.id row = true
  · rw [if_pos chosen] at live'
    cases live'
  · rw [if_neg chosen] at live' same
    rw [h.eq_of_name hrow hr live' live same] at chosen
    exact chosen (liveAt_iff.mpr ⟨live, rfl⟩)

/-- Only a request that is made takes a name. -/
theorem Free.renamed {new : Option Origin} (free : s.Free name) (renamed : s.Renamed new s')
    (other : ∀ o ∈ new, o.draft.name ≠ name) : s'.Free name := by
  cases renamed with
  | changed change renames =>
      intro r' hr' live
      obtain ⟨r, hr, rfl⟩ := List.mem_map.mp hr'
      rcases (renames r).name with ⟨deleted, same⟩ | ⟨-, deleted, -⟩
      · rw [same]
        exact free r hr (deleted.symm.trans live)
      · rw [deleted] at live
        cases live
  | @added o _ stems live _ =>
      intro r hr alive
      rcases List.mem_append.mp hr with before | now
      · exact free r before alive
      · rw [List.mem_singleton.mp now, stems.name_of_live live]
        exact other o rfl

end Store
end ProjectDesk
