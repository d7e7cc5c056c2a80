import ProjectDesk.Proofs.Store.Origin
import ProjectDesk.Proofs.Workflow.Coherence

/-!
Ids and names, whatever operations are under way and however they take turns. The store holds what
was made, in the order of the making, and nothing is made from a draft that was not looked at first.
So ids only go up, and no name is found twice.
-/

namespace ProjectDesk

/-- What was made, if something was. -/
def Exchange.made? (e : Exchange Ask.interface) : Option Origin :=
  match e with
  | ⟨.statement s, answer⟩ => s.made? answer
  | _ => none

namespace Workflow
open Operation

theorem checkDraft_eq_ok {draft : Draft} (valid : checkDraft draft = .ok ()) :
    0 < draft.ownerId ∧ checkName draft.name = .ok () := by
  unfold checkDraft checkOwner at valid
  split at valid
  · cases valid
  · rename_i owner
    split at valid
    · cases valid
    · rename_i name
      refine ⟨?_, name⟩
      by_contra none
      rw [if_neg none] at owner
      cases owner

/-- A name that is not valid is turned away before the store is asked. -/
theorem create_of_not_valid {draft : Draft} (wrong : checkName draft.name ≠ .ok ()) :
    ∃ fault, create draft = throw (.validation fault) := by
  cases checked : checkDraft draft with
  | error fault => exact ⟨fault, by rw [create, checked]⟩
  | ok _ => exact absurd (checkDraft_eq_ok checked).2 wrong

/-- The id that is given is that of the new record. -/
theorem create_makes (draft : Draft) :
    (create draft).Ensures fun t result => ∀ id, result = .ok id →
      ∃ row, ⟨Ask.statement (.insert draft), .ok row⟩ ∈ t ∧ row.id = id := by
  unfold create
  split
  · exact fun id failed => nomatch failed
  · rw [ensures_bind, ensures_query]
    intro answer
    cases answer with
    | ok row =>
        rintro id result
        cases result
        exact ⟨row, .head _, rfl⟩
    | error e => cases e <;> exact fun id failed => nomatch failed

/-- Only what was checked is asked to be stored. -/
theorem Order.Allows.valid_of_insert {o : Order} {t : List (Exchange Ask.interface)} {draft : Draft}
    (h : o.Allows t (.statement (.insert draft))) : checkDraft draft = .ok () := by
  cases o with
  | create draft' =>
      cases h.1
      exact h.2
  | approve _ _ | reject _ _ => exact h.1.elim
  | delete _ | renameOwner _ _ => cases h
  | get _ _ | getByName _ _ | isThere _ | list _ _ | count _ => exact h.elim

namespace Turn

theorem renamed (t : Turn) : t.found.Renamed t.exchange.made? t.left := by
  obtain ⟨asker, found, query, reply⟩ := t
  cases query with
  | statement s => exact s.renamed reply.time found
  | call _ | settings | announce _ _ => exact .same found

theorem exchange_of_made {t : Turn} {o : Origin} (made : t.exchange.made? = some o) :
    t.query = .statement (.insert o.draft) := by
  obtain ⟨asker, found, query, reply⟩ := t
  cases query with
  | statement s => exact congrArg _ ((s.effect reply.time found).asked made)
  | call _ | settings | announce _ _ => cases made

end Turn

namespace Floor

variable {admits : Floor → Order → Prop} {f g : Floor} {t : Turn}

/-- All that was made, in this order. -/
def made (f : Floor) : List Origin :=
  f.turns.filterMap fun t => t.exchange.made?

theorem made_record (t : Turn) (rest : Undertaking) :
    (f.record t rest).made = f.made ++ t.exchange.made?.toList := by
  rw [made, record, List.filterMap_append]
  cases new : t.exchange.made? <;> simp [new, made]

theorem Reached.stocked (reached : Reached admits f) : f.store.Stocked f.made := by
  induction reached with
  | refl => exact .empty
  | @tail f _ _ step ih =>
      cases step with
      | ordered o _ => exact ih
      | answered asker reply answered =>
          obtain ⟨o, q, next, -, rfl⟩ := answer?_eq_some answered
          let t : Turn := ⟨asker, f.store, q, reply⟩
          rw [made_record]
          exact ih.renamed t.renamed

/-- So it was at every turn. -/
theorem Reached.stocked_found (reached : Reached admits f) (ht : t ∈ f.turns) :
    ∃ earlier, earlier <+: f.made ∧ t.found.Stocked earlier := by
  induction reached with
  | refl => cases ht
  | tail first step ih =>
      cases step with
      | ordered o _ => exact ih ht
      | answered asker reply answered =>
          obtain ⟨o, q, next, -, rfl⟩ := answer?_eq_some answered
          rw [made_record]
          rcases List.mem_append.mp ht with past | now
          · obtain ⟨earlier, within, stocked⟩ := ih past
            exact ⟨earlier, within.trans (List.prefix_append _ _), stocked⟩
          · rw [List.mem_singleton.mp now]
            exact ⟨_, List.prefix_append _ _, Reached.stocked first⟩

/-- What the request of an id was made from. -/
def madeAs (id : Int) (f : Floor) : Option Origin :=
  f.made.find? (·.row.id == id)

theorem Reached.madeAs_eq (reached : Reached admits f) {o : Origin} (ho : o ∈ f.made) :
    f.madeAs o.row.id = some o := by
  have distinct : (f.made.map (·.row.id)).Nodup :=
    reached.stocked.increasing.imp Int.ne_of_lt
  unfold madeAs
  cases found : f.made.find? (·.row.id == o.row.id) with
  | none => simpa using List.find?_eq_none.mp found o ho
  | some o' =>
      have same : o'.row.id = o.row.id := by simpa using List.find?_some found
      rw [List.inj_on_of_nodup_map distinct (List.mem_of_find?_eq_some found) ho same]

/-- Every question was allowed after what its asker had exchanged before. -/
theorem Coherent.allowed (h : f.Coherent) {before after : List Turn}
    (split : f.turns = before ++ t :: after) :
    ∃ u, f.undertakings[t.asker]? = some u ∧
      u.order.Allows ((before.filter (·.asker == t.asker)).map Turn.exchange) t.query := by
  have inRange : t.asker < f.undertakings.length := by
    apply h.asked t
    rw [split]
    exact List.mem_append_right _ (.head _)
  refine ⟨_, List.getElem?_eq_getElem inRange, ?_⟩
  have leads := h.traced t.asker _ (List.getElem?_eq_getElem inRange)
  rw [exchangesOf, split, List.filter_append, List.filter_cons_of_pos (by simp), List.map_append,
    List.map_cons] at leads
  exact (Order.guarded _).of_leads leads

theorem Coherent.valid_of_made (h : f.Coherent) {o : Origin} (ho : o ∈ f.made) :
    0 < o.draft.ownerId ∧ checkName o.draft.name = .ok () := by
  obtain ⟨t, ht, made⟩ := List.mem_filterMap.mp ho
  obtain ⟨before, after, split⟩ := List.append_of_mem ht
  obtain ⟨u, -, allowed⟩ := h.allowed split
  rw [Turn.exchange_of_made made] at allowed
  exact checkDraft_eq_ok allowed.valid_of_insert

/-- An id that was given is greater than all that there were. -/
theorem Coherent.lt_of_created (h : f.Coherent) {i : Nat} {draft : Draft} {id : Int}
    (returned : f.undertakings[i]? = some ⟨.create draft, .done (.ok id)⟩) :
    ∃ t ∈ f.turns, t.asker = i ∧ ∃ o, t.exchange.made? = some o ∧ o.draft = draft ∧
      o.row.id = id ∧ ∀ r ∈ t.found.rows, r.id < id := by
  obtain ⟨row, asked, rfl⟩ := (create_makes draft).of_leads (h.traced i _ returned) id rfl
  obtain ⟨t, ht, exchange⟩ := List.mem_map.mp asked
  obtain ⟨member, mine⟩ := List.mem_filter.mp ht
  have made : t.exchange.made? = some ⟨draft, row⟩ := by
    rw [exchange]
    rfl
  refine ⟨t, member, beq_iff_eq.mp mine, _, made, rfl, rfl, ?_⟩
  intro r hr
  have issued := (h.found t member).issued r hr
  have next : row.id = t.found.issued + 1 := t.renamed.id_of_made made
  omega

/-- The ids that there are were given in this order, and no two names are the same, of live requests
and tombstones together. An id that the database can hold leaves room enough in a name. -/
theorem names_told_apart (reached : Reached admits f) :
    f.store.rows.map (·.id) = f.made.map (·.row.id) ∧
    (f.made.map (·.row.id)).Pairwise (· < ·) ∧
    (∀ i draft id, f.undertakings[i]? = some ⟨.create draft, .done (.ok id)⟩ →
      ∃ t ∈ f.turns, t.asker = i ∧ ∃ o, t.exchange.made? = some o ∧ o.draft = draft ∧
        o.row.id = id ∧ ∀ r ∈ t.found.rows, r.id < id) ∧
    (∀ r ∈ f.store.rows, 0 < r.ownerId ∧
      (r.deleted = false → checkName r.name = .ok ()) ∧
      (r.deleted = true →
        (∃ o ∈ f.made, o.row.id = r.id ∧ ∃ p, p <+: o.draft.name.toList ∧
          r.name.toList = p ++ '#' :: Text.decimalChars r.id) ∧
        (Range.signed64.has r.id = true → r.name.utf8ByteSize ≤ 255) ∧
        ∀ ownerId ownerName, ∃ fault,
          create ⟨ownerId, ownerName, r.name⟩ = throw (.validation fault))) ∧
    (f.store.rows.map (·.name)).Nodup := by
  have stocked := reached.stocked
  have coherent := reached.coherent
  refine ⟨stocked.ids, stocked.increasing, fun i draft id => coherent.lt_of_created, ?_, ?_⟩
  · intro r hr
    obtain ⟨o, ho, stems⟩ := stocked.exists_origin hr
    obtain ⟨owner, name⟩ := coherent.valid_of_made ho
    refine ⟨?_, ?_, ?_⟩
    · rw [stems.ownerId]
      exact owner
    · intro live
      rw [stems.name_of_live live]
      exact name
    · intro deleted
      rw [stems.name_of_deleted deleted]
      obtain ⟨p, within, chars, -⟩ := Store.toList_tombstoneName o.draft.name r.id
      refine ⟨⟨o, ho, stems.id.symm, p, within, chars⟩, Store.utf8ByteSize_tombstoneName _, ?_⟩
      intro ownerId ownerName
      exact create_of_not_valid (Store.tombstoneName_not_valid _ _)
  · exact stocked.names_nodup fun o ho => (coherent.valid_of_made ho).2

/-- A request is made, deleted, and made again under the same name. -/
theorem names_told_apart_again : ∃ f, Reached (fun _ _ => True) f ∧
    f.store.rows.map (·.name) = ["alpha#1", "alpha"] ∧ (f.store.rows.map (·.name)).Nodup ∧
    f.store.rows.map (·.id) = f.made.map (·.row.id) := by
  let reply : Reply := ⟨⟨⟨2026, 6, 1⟩, 12, 0, 0, 0⟩, {}, 0, fun _ => .error (.failed "down")⟩
  let moves : List Move := [.order (.create ⟨1, "ann", "alpha"⟩), .answer 0, .order (.delete 1),
    .answer 1, .order (.create ⟨2, "bob", "alpha"⟩), .answer 2]
  have played : (play? (fun _ _ => True) reply moves {}).map
      (fun f => f.store.rows.map (·.name)) = some ["alpha#1", "alpha"] := by
    decide +kernel
  obtain ⟨f, runs, names⟩ := Option.map_eq_some_iff.mp played
  obtain ⟨ids, -, -, -, distinct⟩ := names_told_apart (runs_of_play? runs)
  exact ⟨f, runs_of_play? runs, names, distinct, ids⟩

end Floor
end Workflow
end ProjectDesk
