import ProjectDesk.Proofs.Store.Reservation
import ProjectDesk.Proofs.Workflow.Listing

/-!
Names that are reserved by making a request and freed by deleting it. Making succeeds exactly where
the draft is valid and its name is free, deleting exactly where a live request has the id, and what
fails changes nothing. Over a whole run, whatever else is under way, a name is free from the deletion
of its request until a request is made under it again.
-/

namespace ProjectDesk

theorem Exchange.eq_of_made {e : Exchange Ask.interface} {o : Origin} (h : e.made? = some o) :
    e = ⟨Ask.statement (.insert o.draft), .ok o.row⟩ := by
  obtain ⟨query, answer⟩ := e
  cases query with
  | statement s =>
      cases s with
      | insert draft =>
          cases answer with
          | ok row =>
              cases h
              rfl
          | error e => cases h
      | findLive _ | findAny _ | findNamed _ | list _ | count _ | transition _ _ _ | renameOwner _ _
      | softDelete _ => cases answer <;> cases h
  | call _ | settings | announce _ _ => cases h

namespace Workflow
open Operation

variable {s : Store} {draft : Draft} {name : String} {r : Request}

theorem checkDraft_of_valid (owner : 0 < draft.ownerId) (name : checkName draft.name = .ok ()) :
    checkDraft draft = .ok () := by
  simp [checkDraft, checkOwner, owner, name]

theorem isEmpty_of_checkName (valid : checkName name = .ok ()) : name.isEmpty = false := by
  by_contra none
  rw [Bool.not_eq_false, String.isEmpty_iff] at none
  rw [none] at valid
  cases valid

/-! Single operations. -/

namespace Reply

variable (reply : Reply)

theorem carryOut_create_of_fault {fault : ValidationFault} (wrong : checkDraft draft = .error fault)
    (s : Store) : reply.carryOut (create draft) s = (.error (.validation fault), s) := by
  rw [create, wrong]
  rfl

theorem carryOut_create (valid : checkDraft draft = .ok ()) (s : Store) :
    reply.carryOut (create draft) s =
      match s.insert draft reply.time with
      | (.ok row, s') => (.ok row.id, s')
      | (.error .nameTaken, s') => (.error (.conflict (.nameTaken draft.name)), s')
      | (.error e, s') => (.error (.database e), s') := by
  rw [create, valid]
  dsimp only
  rw [carryOut_bind, carryOut_query, Statement.run]
  rcases s.insert draft reply.time with ⟨e | row, s'⟩
  · cases e <;> rfl
  · rfl

theorem carryOut_find_of_free (free : s.Free name) :
    reply.carryOut (find (.name name)) s =
      (.error (.notFound (.request (.name name))), s) := by
  have none : Statement.run reply.time s (.findNamed name) = (.ok .none, s) := by
    rw [Statement.run, Store.findNamed_of_free free]
    rfl
  rw [find, carryOut_statement, none]
  rfl

theorem carryOut_isThere (ref : RequestRef) (s : Store) :
    reply.carryOut (isThere ref) s =
      match reply.carryOut (find ref) s with
      | (.ok _, s') => (.ok true, s')
      | (.error (.notFound _), s') => (.ok false, s')
      | (.error e, s') => (.error e, s') := by
  refine (reply.carryOut_mk (find ref) _ s).trans ?_
  rcases reply.carryOut (find ref) s with ⟨e | r, s'⟩
  · cases e <;> rfl
  · rfl

theorem carryOut_create_of_free (valid : checkDraft draft = .ok ()) (free : s.Free draft.name) :
    reply.carryOut (create draft) s =
      (.ok (s.issued + 1), ⟨s.rows ++
        [{ id := s.issued + 1, ownerId := draft.ownerId, ownerName := draft.ownerName,
           name := draft.name, status := .notDetermined, deleted := false,
           createdAt := .instant reply.time, updatedAt := .instant reply.time }],
        s.issued + 1⟩) := by
  rw [reply.carryOut_create valid, Store.insert_of_free free]

theorem carryOut_create_of_taken (valid : checkDraft draft = .ok ())
    (taken : ¬ s.Free draft.name) :
    reply.carryOut (create draft) s = (.error (.conflict (.nameTaken draft.name)), s) := by
  rw [reply.carryOut_create valid, Store.insert_of_taken taken]

theorem carryOut_delete_of_live (sound : s.Sound) (hr : r ∈ s.rows) (live : r.deleted = false) :
    reply.carryOut (delete r.id) s =
      (.ok (), (Statement.run reply.time s (.softDelete r.id)).2) := by
  rw [delete, carryOut_statement, sound.run_softDelete hr live]
  rfl

theorem carryOut_delete_of_none {id : Int} (none : ∀ r ∈ s.rows, r.id = id → r.deleted = true) :
    reply.carryOut (delete id) s = (.error (.notFound (.request (.id id))), s) := by
  rw [delete, carryOut_statement, Store.run_softDelete_of_none none]
  rfl

/-- What making a request comes to. -/
structure Reserves (draft : Draft) (s : Store) : Prop where
  ok_iff : (∃ id, (reply.carryOut (create draft) s).1 = .ok id) ↔
    0 < draft.ownerId ∧ checkName draft.name = .ok () ∧ s.Free draft.name
  added : ∀ id, (reply.carryOut (create draft) s).1 = .ok id →
    (∀ r ∈ s.rows, r.id < id) ∧
    (reply.carryOut (create draft) s).2 = ⟨s.rows ++
      [{ id, ownerId := draft.ownerId, ownerName := draft.ownerName, name := draft.name,
         status := .notDetermined, deleted := false, createdAt := .instant reply.time,
         updatedAt := .instant reply.time }], s.issued + 1⟩
  invalid : ¬ (0 < draft.ownerId ∧ checkName draft.name = .ok ()) →
    ∃ fault, reply.carryOut (create draft) s = (.error (.validation fault), s)
  taken : 0 < draft.ownerId → checkName draft.name = .ok () → ¬ s.Free draft.name →
    reply.carryOut (create draft) s = (.error (.conflict (.nameTaken draft.name)), s)

/-- What deleting a request comes to. -/
structure Releases (id : Int) (s : Store) : Prop where
  ok_iff : (reply.carryOut (delete id) s).1 = .ok () ↔
    ∃ r ∈ s.rows, r.id = id ∧ r.deleted = false
  buried : ∀ before r after, s.rows = before ++ r :: after → r.id = id → r.deleted = false →
    (reply.carryOut (delete id) s).2 = { s with
      rows := before ++ { r with
        name := Store.tombstoneName r.name id, deleted := true,
        updatedAt := .instant reply.time } :: after }
  missing : (¬ ∃ r ∈ s.rows, r.id = id ∧ r.deleted = false) →
    reply.carryOut (delete id) s = (.error (.notFound (.request (.id id))), s)

theorem reserves (sound : s.Sound) (draft : Draft) : reply.Reserves draft s := by
  cases checked : checkDraft draft with
  | error fault =>
      have failed := reply.carryOut_create_of_fault checked s
      have wrong : ¬ (0 < draft.ownerId ∧ checkName draft.name = .ok ()) := by
        rintro ⟨owner, name⟩
        rw [checkDraft_of_valid owner name] at checked
        cases checked
      constructor
      · rw [failed]
        exact ⟨fun ⟨_, ok⟩ => (nomatch ok), fun ⟨owner, name, _⟩ => (wrong ⟨owner, name⟩).elim⟩
      · rw [failed]
        exact fun _ ok => nomatch ok
      · exact fun _ => ⟨fault, failed⟩
      · exact fun owner name => (wrong ⟨owner, name⟩).elim
  | ok _ =>
      obtain ⟨owner, name⟩ := checkDraft_eq_ok checked
      by_cases free : s.Free draft.name
      · have made := reply.carryOut_create_of_free checked free
        constructor
        · rw [made]
          exact ⟨fun _ => ⟨owner, name, free⟩, fun _ => ⟨_, rfl⟩⟩
        · rw [made]
          rintro id ok
          cases ok
          exact ⟨fun r => sound.issued_lt, rfl⟩
        · exact fun wrong => (wrong ⟨owner, name⟩).elim
        · exact fun _ _ taken => (taken free).elim
      · have failed := reply.carryOut_create_of_taken checked free
        constructor
        · rw [failed]
          exact ⟨fun ⟨_, ok⟩ => (nomatch ok), fun ⟨_, _, free'⟩ => (free free').elim⟩
        · rw [failed]
          exact fun _ ok => nomatch ok
        · exact fun wrong => (wrong ⟨owner, name⟩).elim
        · exact fun _ _ _ => failed

theorem releases (sound : s.Sound) (id : Int) : reply.Releases id s := by
  by_cases there : ∃ r ∈ s.rows, r.id = id ∧ r.deleted = false
  · obtain ⟨r, hr, rfl, live⟩ := there
    have done := reply.carryOut_delete_of_live sound hr live
    constructor
    · rw [done]
      exact ⟨fun _ => ⟨r, hr, rfl, live⟩, fun _ => rfl⟩
    · intro before r' after split same _
      have member : r' ∈ s.rows := by
        rw [split]
        exact List.mem_append_right _ (.head _)
      obtain rfl := sound.eq_of_id member hr same
      rw [done, sound.run_softDelete hr live, sound.map_liveAt split live]
      rfl
    · exact fun none => (none ⟨r, hr, rfl, live⟩).elim
  · have none : ∀ r ∈ s.rows, r.id = id → r.deleted = true := by
      intro r hr same
      rw [← Bool.not_eq_false]
      exact fun live => there ⟨r, hr, same, live⟩
    have failed := reply.carryOut_delete_of_none none
    constructor
    · rw [failed]
      exact ⟨fun ok => (nomatch ok), fun here => (there here).elim⟩
    · intro before r after split same live
      refine (there ⟨r, ?_, same, live⟩).elim
      rw [split]
      exact List.mem_append_right _ (.head _)
    · exact fun _ => failed

/-- Nothing is found under the name, and every owner can make a request under it. -/
structure Vacant (name : String) (s : Store) : Prop where
  get : ∀ withOwner, reply.carryOut (get (.name name) withOwner) s =
    (.error (.notFound (.request (.name name))), s)
  getByName : ∀ withOwner, reply.carryOut (getByName name withOwner) s =
    (.error (.notFound (.request (.name name))), s)
  isThere : reply.carryOut (isThere (.name name)) s = (.ok false, s)
  create : ∀ ownerId ownerName, 0 < ownerId →
    ∃ id s', reply.carryOut (create ⟨ownerId, ownerName, name⟩) s = (.ok id, s')

theorem vacant_of_free (valid : checkName name = .ok ()) (free : s.Free name) :
    reply.Vacant name s := by
  have get (withOwner : Bool) : reply.carryOut (Workflow.get (.name name) withOwner) s =
      (.error (.notFound (.request (.name name))), s) := by
    rw [Workflow.get, carryOut_bind, reply.carryOut_find_of_free free]
  refine ⟨get, ?_, ?_, ?_⟩
  · intro withOwner
    rw [Workflow.getByName, isEmpty_of_checkName valid, if_neg Bool.false_ne_true, get]
  · rw [carryOut_isThere, reply.carryOut_find_of_free free]
  · intro ownerId ownerName owner
    have checked : checkDraft ⟨ownerId, ownerName, name⟩ = .ok () := checkDraft_of_valid owner valid
    exact ⟨_, _, reply.carryOut_create_of_free checked free⟩

end Reply

/-! Making and deleting in turn. -/

/-- Makes a request from the draft and deletes it again, so many times. -/
def makeAndDelete (draft : Draft) : Nat → Operation Unit
  | 0 => return ()
  | rounds + 1 => do
      let id ← create draft
      delete id
      makeAndDelete draft rounds

theorem Reply.carryOut_makeAndDelete (reply : Reply) (valid : checkDraft draft = .ok ())
    (rounds : Nat) {made : List Origin} (stocked : s.Stocked made) (sound : s.Sound)
    (free : s.Free draft.name) :
    ∃ s', reply.carryOut (makeAndDelete draft rounds) s = (.ok (), s') ∧ s'.Free draft.name := by
  induction rounds generalizing s made with
  | zero => exact ⟨s, rfl, free⟩
  | succ rounds ih =>
      let row : Request :=
        { id := s.issued + 1, ownerId := draft.ownerId, ownerName := draft.ownerName,
          name := draft.name, status := .notDetermined, deleted := false,
          createdAt := .instant reply.time, updatedAt := .instant reply.time }
      let grown : Store := ⟨s.rows ++ [row], s.issued + 1⟩
      have inserted : Statement.run reply.time s (.insert draft) = (.ok row, grown) :=
        Store.insert_of_free free
      have renamed := Statement.renamed (.insert draft) reply.time s
      have insertion : (Statement.insert draft).Lawful := trivial
      have advances := Statement.advances insertion reply.time s
      rw [inserted] at renamed advances
      have stocked' := stocked.renamed renamed
      have sound' : grown.Sound := advances.sound sound
      have member : row ∈ grown.rows := List.mem_append_right _ (.head _)
      have buried := Statement.renamed (.softDelete row.id) reply.time grown
      have deletion : (Statement.softDelete row.id).Lawful := trivial
      have gone := Statement.advances deletion reply.time grown
      obtain ⟨s', rest, free'⟩ := ih (stocked'.renamed buried) (gone.sound sound')
        (stocked'.free_of_softDelete sound' member rfl)
      refine ⟨s', ?_, free'⟩
      rw [makeAndDelete, carryOut_bind, reply.carryOut_create_of_free valid free]
      change reply.carryOut (delete row.id >>= fun _ => makeAndDelete draft rounds) grown = _
      rw [carryOut_bind, reply.carryOut_delete_of_live sound' member rfl]
      exact rest

namespace Turn

/-- The turn deleted the live request that had the name. -/
def Frees (name : String) (t : Turn) : Prop :=
  ∃ r ∈ t.found.rows, r.deleted = false ∧ r.name = name ∧ t.query = .statement (.softDelete r.id)

theorem free_of_frees {t : Turn} {name : String} {made : List Origin}
    (stocked : t.found.Stocked made) (sound : t.found.Sound) (frees : t.Frees name) :
    t.left.Free name := by
  obtain ⟨asker, found, query, reply⟩ := t
  obtain ⟨r, hr, live, rfl, asked⟩ := frees
  cases asked
  exact stocked.free_of_softDelete sound hr live

end Turn

/-- Only who makes a request asks for one to be inserted. -/
theorem Order.Allows.eq_create {o : Order} {t : List (Exchange Ask.interface)} {draft : Draft}
    (h : o.Allows t (.statement (.insert draft))) : o = .create draft := by
  cases o with
  | create draft' =>
      cases h.1
      rfl
  | approve _ _ | reject _ _ => exact h.1.elim
  | delete _ | renameOwner _ _ => cases h
  | get _ _ | getByName _ _ | isThere _ | list _ _ | count _ => exact h.elim

/-- Once its request is made, making has returned. -/
theorem done_of_create {t : List (Exchange Ask.interface)} {row : Request}
    {rest : Program Ask.interface (Except RequestError Int)}
    (leads : (create draft).run.Leads t rest)
    (made : ⟨Ask.statement (.insert draft), .ok row⟩ ∈ t) : rest = .done (.ok row.id) := by
  unfold create at leads
  split at leads
  · cases leads
    cases made
  · cases leads with
    | here _ => cases made
    | asked answer after =>
        rcases List.mem_cons.mp made with now | later
        · cases now
          cases after
          rfl
        · rcases answer with e | _
          · cases e <;> cases after <;> cases later
          · cases after
            cases later

namespace Floor

variable {admits : Floor → Order → Prop} {f : Floor} {t : Turn}

/-- A name that was freed is free until something is made under it. -/
theorem Reached.free_since (reached : Reached admits f) {before after : List Turn}
    (split : f.turns = before ++ t :: after) (frees : t.Frees name)
    (others : ∀ t' ∈ after, ∀ o ∈ t'.exchange.made?, o.draft.name ≠ name) : f.store.Free name := by
  induction reached generalizing after with
  | refl => simp at split
  | @tail f _ first step ih =>
      cases step with
      | ordered o _ => exact ih split others
      | answered asker reply answered =>
          obtain ⟨o, q, next, -, rfl⟩ := answer?_eq_some answered
          rcases List.eq_nil_or_concat after with rfl | ⟨after, last, rfl⟩
          · obtain ⟨-, same⟩ := List.append_inj' split rfl
            cases same
            exact Turn.free_of_frees (Reached.stocked first) (Reached.coherent first).sound frees
          · rw [List.concat_eq_append, ← List.cons_append, ← List.append_assoc] at split
            obtain ⟨earlier, same⟩ := List.append_inj' split rfl
            cases same
            rw [List.concat_eq_append] at others
            let last : Turn := ⟨asker, f.store, q, reply⟩
            have free := ih earlier fun t' ht' => others t' (List.mem_append_left _ ht')
            exact free.renamed last.renamed (others last (List.mem_append_right _ (.head _)))

/-- A request that was made was returned to whoever had ordered it. -/
theorem Coherent.create_of_made (h : f.Coherent) (ht : t ∈ f.turns) {o : Origin}
    (made : t.exchange.made? = some o) :
    f.undertakings[t.asker]? = some ⟨.create o.draft, .done (.ok o.row.id)⟩ := by
  obtain ⟨before, after, split⟩ := List.append_of_mem ht
  obtain ⟨⟨order, rest⟩, underWay, allowed⟩ := h.allowed split
  rw [Turn.exchange_of_made made] at allowed
  obtain rfl := allowed.eq_create
  have leads := h.traced t.asker _ underWay
  have asked : t.exchange ∈ f.exchangesOf t.asker :=
    List.mem_map_of_mem (List.mem_filter.mpr ⟨ht, beq_self_eq_true _⟩)
  rw [Exchange.eq_of_made made] at asked
  obtain rfl : rest = .done (.ok o.row.id) := done_of_create leads asked
  exact underWay

/-- The name of a live request is one that a request can be made under. -/
theorem Reached.checkName_of_found (reached : Reached admits f) (ht : t ∈ f.turns) {r : Request}
    (hr : r ∈ t.found.rows) (live : r.deleted = false) : checkName r.name = .ok () := by
  obtain ⟨earlier, within, stocked⟩ := reached.stocked_found ht
  obtain ⟨o, ho, stems⟩ := stocked.exists_origin hr
  rw [stems.name_of_live live]
  exact (reached.coherent.valid_of_made (within.subset ho)).2

/-- A name is to be had again once the request that had it was deleted, until another request is
made under it. -/
theorem Reached.free_of_deleted (reached : Reached admits f) {before after : List Turn} {id : Int}
    {r : Request} (split : f.turns = before ++ t :: after)
    (deleted : f.undertakings[t.asker]? = some ⟨.delete id, .done (.ok ())⟩)
    (hr : r ∈ t.found.rows) (same : r.id = id) (live : r.deleted = false)
    (others : ∀ t' ∈ after, ∀ draft id',
      f.undertakings[t'.asker]? = some ⟨.create draft, .done (.ok id')⟩ → draft.name ≠ r.name) :
    f.store.Free r.name := by
  have frees : t.Frees r.name := by
    obtain ⟨u, underWay, allowed⟩ := reached.coherent.allowed split
    rw [deleted] at underWay
    cases underWay
    rw [← same] at allowed
    exact ⟨r, hr, live, rfl, allowed⟩
  refine reached.free_since split frees fun t' ht' o made => ?_
  have later : t' ∈ f.turns := by
    rw [split]
    exact List.mem_append_right _ (.tail _ ht')
  exact others t' ht' o.draft o.row.id (reached.coherent.create_of_made later made)

theorem name_reservation (reached : Reached admits f) (reply : Reply) :
    (∀ draft, reply.Reserves draft f.store) ∧
    (∀ id, reply.Releases id f.store) ∧
    ∀ before t after id r, f.turns = before ++ t :: after →
      f.undertakings[t.asker]? = some ⟨.delete id, .done (.ok ())⟩ →
      r ∈ t.found.rows → r.id = id → r.deleted = false →
      (∀ t' ∈ after, ∀ draft id',
        f.undertakings[t'.asker]? = some ⟨.create draft, .done (.ok id')⟩ →
          draft.name ≠ r.name) →
      reply.Vacant r.name f.store ∧
      ∀ ownerId ownerName, 0 < ownerId → ∀ rounds, ∃ s',
        reply.carryOut (makeAndDelete ⟨ownerId, ownerName, r.name⟩ rounds) f.store = (.ok (), s') ∧
          reply.Vacant r.name s' := by
  have sound := reached.coherent.sound
  refine ⟨reply.reserves sound, reply.releases sound, ?_⟩
  intro before t after id r split deleted hr same live others
  have ht : t ∈ f.turns := by
    rw [split]
    exact List.mem_append_right _ (.head _)
  have valid := reached.checkName_of_found ht hr live
  have free := reached.free_of_deleted split deleted hr same live others
  refine ⟨reply.vacant_of_free valid free, fun ownerId ownerName owner rounds => ?_⟩
  have checked : checkDraft ⟨ownerId, ownerName, r.name⟩ = .ok () := checkDraft_of_valid owner valid
  obtain ⟨s', done, free'⟩ := reply.carryOut_makeAndDelete checked rounds reached.stocked sound free
  exact ⟨s', done, reply.vacant_of_free valid free'⟩

/-- A request was made and deleted, and its name is to be had again. -/
theorem name_reservation_deleted :
    let reply : Reply := ⟨⟨⟨2026, 6, 1⟩, 12, 0, 0, 0⟩, {}, 0, fun _ => .error (.failed "down")⟩
    ∃ f, Reached (fun _ _ => True) f ∧ f.store.rows.map (·.name) = ["alpha#1"] ∧
      reply.Vacant "alpha" f.store ∧
      ∃ s', reply.carryOut (makeAndDelete ⟨2, "bob", "alpha"⟩ 3) f.store = (.ok (), s') := by
  intro reply
  have reached : Reached (fun _ _ => True) _ :=
    (((Relation.ReflTransGen.single (.ordered (.create ⟨1, "ann", "alpha"⟩) trivial)).tail
      (.answered 0 reply rfl)).tail (.ordered (.delete 1) trivial)).tail (.answered 1 reply rfl)
  obtain ⟨-, -, freed⟩ := name_reservation reached reply
  obtain ⟨vacant, again⟩ := freed [_] _ [] 1 _ rfl rfl (.head _) rfl rfl (by simp)
  obtain ⟨s', done, -⟩ := again 2 "bob" (by decide) 3
  exact ⟨_, reached, by decide +kernel, vacant, s', done⟩

end Floor
end Workflow
end ProjectDesk
