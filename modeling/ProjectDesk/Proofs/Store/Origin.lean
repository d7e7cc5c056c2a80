import Mathlib.Data.List.Forall2
import ProjectDesk.Proofs.Store.Amendment
import ProjectDesk.Proofs.Store.Tombstone

/-!
What the records of a store were made from. Every record stems from one draft: it keeps its id and
its owner, and its name as long as it is live, and a tombstone is named after what the name was. So
the records are those that were made, in the order of the making, and their names are told apart by
what was drafted.
-/

namespace ProjectDesk
namespace Request

/-- What a statement may do to the owner and the name of a record. -/
structure Renames (before after : Request) : Prop where
  id : after.id = before.id
  ownerId : after.ownerId = before.ownerId
  name : (after.deleted = before.deleted ∧ after.name = before.name) ∨
    (before.deleted = false ∧ after.deleted = true ∧
      after.name = Store.tombstoneName before.name before.id)

theorem Renames.refl (r : Request) : r.Renames r := ⟨rfl, rfl, .inl ⟨rfl, rfl⟩⟩

theorem Changes.renames {r r' : Request} {time : Time.Instant} {st : Statement}
    (h : r.Changes time st r') : r.Renames r' := by
  cases h with
  | decided _ | ownerRenamed _ _ => exact ⟨rfl, rfl, .inl ⟨rfl, rfl⟩⟩
  | buried live => exact ⟨rfl, rfl, .inr ⟨live, rfl, rfl⟩⟩

structure StemsFrom (r : Request) (o : Origin) : Prop where
  id : r.id = o.row.id
  ownerId : r.ownerId = o.draft.ownerId
  name : r.name = if r.deleted then Store.tombstoneName o.draft.name r.id else o.draft.name

theorem StemsFrom.renames {r r' : Request} {o : Origin} (h : r.StemsFrom o)
    (renames : r.Renames r') : r'.StemsFrom o := by
  refine ⟨renames.id.trans h.id, renames.ownerId.trans h.ownerId, ?_⟩
  rcases renames.name with ⟨deleted, name⟩ | ⟨live, deleted, name⟩
  · rw [name, deleted, renames.id, h.name]
  · have before := h.name
    rw [live, if_neg Bool.false_ne_true] at before
    rw [name, deleted, if_pos rfl, renames.id, before]

theorem StemsFrom.name_of_live {r : Request} {o : Origin} (h : r.StemsFrom o)
    (live : r.deleted = false) : r.name = o.draft.name := by
  rw [h.name, live]
  rfl

theorem StemsFrom.name_of_deleted {r : Request} {o : Origin} (h : r.StemsFrom o)
    (deleted : r.deleted = true) : r.name = Store.tombstoneName o.draft.name r.id := by
  rw [h.name, deleted]
  rfl

end Request

namespace Store

variable {s s' : Store} {time : Time.Instant} {st : Statement} {new : Option Origin}

/-- What becomes of the owners and names in a store, and what is made. -/
inductive Renamed (s : Store) : Option Origin → Store → Prop
  | changed (change : Request → Request) (renames : ∀ r, Request.Renames r (change r)) :
      Renamed s none { s with rows := s.rows.map change }
  | added {o : Origin} (id : o.row.id = s.issued + 1) (stems : o.row.StemsFrom o)
      (live : o.row.deleted = false)
      (free : ∀ r ∈ s.rows, r.deleted = false → r.name ≠ o.draft.name) :
      Renamed s (some o) ⟨s.rows ++ [o.row], s.issued + 1⟩

theorem Renamed.same (s : Store) : s.Renamed none s := by
  have h : s.Renamed none { s with rows := s.rows.map fun r => r } :=
    .changed (fun r => r) Request.Renames.refl
  simpa using h

theorem Renamed.id_of_made {o : Origin} (h : s.Renamed new s') (made : new = some o) :
    o.row.id = s.issued + 1 := by
  cases h with
  | changed _ _ => cases made
  | added id _ _ _ =>
      cases made
      exact id

theorem Effect.renamed (h : s.Effect time st new s') : s.Renamed new s' := by
  cases h with
  | changed change changes =>
      refine .changed change fun r => ?_
      rcases changes r with same | changes
      · rw [same]
        exact .refl r
      · exact changes.renames
  | added _ free made =>
      subst made
      exact .added rfl ⟨rfl, rfl, rfl⟩ rfl free

end Store

theorem Statement.renamed (st : Statement) (time : Time.Instant) (s : Store) :
    s.Renamed (st.made? (st.run time s).1) (st.run time s).2 :=
  (st.effect time s).renamed

namespace Store

variable {s s' : Store} {made : List Origin} {new : Option Origin} {r : Request}

/-- The records are those that were made, in this order. -/
structure Stocked (made : List Origin) (s : Store) : Prop where
  stems : List.Forall₂ (fun o r => Request.StemsFrom r o) made s.rows
  issued : ∀ o ∈ made, o.row.id ≤ s.issued
  increasing : (made.map (·.row.id)).Pairwise (· < ·)
  unique : s.rows.Pairwise fun r r' => r.deleted = false → r'.deleted = false → r.name ≠ r'.name

theorem Stocked.empty : Stocked [] {} :=
  ⟨.nil, fun _ none => absurd none List.not_mem_nil, .nil, .nil⟩

theorem Stocked.renamed (h : s.Stocked made) (renamed : s.Renamed new s') :
    s'.Stocked (made ++ new.toList) := by
  cases renamed with
  | changed change renames =>
      rw [Option.toList_none, List.append_nil]
      refine ⟨?_, h.issued, h.increasing, ?_⟩
      · rw [List.forall₂_map_right_iff]
        exact h.stems.imp fun o r stems => stems.renames (renames r)
      · refine List.pairwise_map.mpr (h.unique.imp ?_)
        intro r r' apart live live'
        have still {r : Request} (live : (change r).deleted = false) :
            r.deleted = false ∧ (change r).name = r.name := by
          rcases (renames r).name with ⟨deleted, name⟩ | ⟨-, deleted, -⟩
          · exact ⟨deleted.symm.trans live, name⟩
          · rw [deleted] at live
            cases live
        rw [(still live).2, (still live').2]
        exact apart (still live).1 (still live').1
  | @added o id stems live free =>
      refine ⟨List.rel_append h.stems (.cons stems .nil), ?_, ?_, ?_⟩
      · intro o' ho'
        rcases List.mem_append.mp ho' with before | now
        · have bound := h.issued o' before
          simp only
          omega
        · rw [Option.mem_toList] at now
          cases now
          rw [id]
          exact Int.le_refl _
      · rw [List.map_append]
        refine List.pairwise_append.mpr ⟨h.increasing, List.pairwise_singleton _ _, ?_⟩
        intro a ha b hb
        obtain ⟨o', ho', rfl⟩ := List.mem_map.mp ha
        rw [List.mem_singleton.mp hb]
        change o'.row.id < o.row.id
        rw [id]
        exact Int.lt_add_one_of_le (h.issued o' ho')
      · refine List.pairwise_append.mpr ⟨h.unique, List.pairwise_singleton _ _, ?_⟩
        intro r hr last hlast live' _
        rw [List.mem_singleton.mp hlast, stems.name_of_live live]
        exact free r hr live'

theorem Stocked.ids (h : s.Stocked made) : s.rows.map (·.id) = made.map (·.row.id) := by
  have ids : List.Forall₂ (· = ·) (made.map (·.row.id)) (s.rows.map (·.id)) := by
    rw [List.forall₂_map_left_iff, List.forall₂_map_right_iff]
    exact h.stems.imp fun o r stems => stems.id.symm
  rw [List.forall₂_eq_eq_eq] at ids
  exact ids.symm

theorem Stocked.exists_origin (h : s.Stocked made) (hr : r ∈ s.rows) :
    ∃ o ∈ made, r.StemsFrom o := by
  obtain ⟨place, inRange, rfl⟩ := List.getElem_of_mem hr
  have inRange' : place < made.length := by
    rw [h.stems.length_eq]
    exact inRange
  exact ⟨made[place], List.getElem_mem inRange', h.stems.get inRange' inRange⟩

/-- No two records have the same name, live or not. -/
theorem Stocked.names_nodup (h : s.Stocked made)
    (valid : ∀ o ∈ made, checkName o.draft.name = .ok ()) : (s.rows.map (·.name)).Nodup := by
  have ids : s.rows.Pairwise fun r r' => r.id < r'.id := by
    have increasing := h.increasing
    rw [← h.ids] at increasing
    exact List.pairwise_map.mp increasing
  refine List.pairwise_map.mpr ((ids.and h.unique).imp_of_mem ?_)
  rintro r r' hr hr' ⟨before, apart⟩ same
  obtain ⟨o, ho, stems⟩ := h.exists_origin hr
  obtain ⟨o', ho', stems'⟩ := h.exists_origin hr'
  cases deleted : r.deleted with
  | false =>
      cases deleted' : r'.deleted with
      | false => exact apart deleted deleted' same
      | true =>
          -- A live request has a valid name.
          rw [stems.name_of_live deleted, stems'.name_of_deleted deleted'] at same
          apply tombstoneName_not_valid o'.draft.name r'.id
          rw [← same]
          exact valid o ho
  | true =>
      cases deleted' : r'.deleted with
      | false =>
          rw [stems.name_of_deleted deleted, stems'.name_of_live deleted'] at same
          apply tombstoneName_not_valid o.draft.name r.id
          rw [same]
          exact valid o' ho'
      | true =>
          rw [stems.name_of_deleted deleted, stems'.name_of_deleted deleted'] at same
          exact Int.ne_of_lt before (id_of_tombstoneName (valid o ho) same)

end Store
end ProjectDesk
