import ProjectDesk.Proofs.Workflow.HandedOut
import ProjectDesk.Proofs.Workflow.Naming
import ProjectDesk.Proofs.Workflow.Winner

/-!
Deciding on an old copy. The project that is made and the event that is published come from the
caller's copy, the checks from the store. They agree all the same: whoever passes the check is shown
a live request by the id of the copy, and a live request has the name and the owner it was made
with, as had the one that was copied. Nothing but that request is ever changed.
-/

namespace ProjectDesk

/-- What an event says of a request, if it is about one. -/
def DomainEvent.request? : DomainEvent → Option RequestEvent
  | .approveRequest e | .rejectRequest e => some e
  | _ => none

theorem Ruling.announcement_request? (x : Ruling) (now : Time.Instant) :
    ∃ e, (x.announcement.occasion x.operator now).event.request? = some e ∧
      e.requestId = x.request.id ∧ e.project = x.request.name ∧ e.ownerId = x.request.ownerId := by
  obtain ⟨operator, r, decision⟩ := x
  cases decision <;> exact ⟨_, rfl, rfl, rfl, rfl⟩

theorem Store.update_filter {s : Store} {test : Request → Bool} {change : Request → Request}
    {id : Int} (own : ∀ r, test r = true → r.id = id) (ids : ∀ r, (change r).id = r.id) :
    (s.update test change).2.rows.filter (·.id != id) = s.rows.filter (·.id != id) := by
  unfold update
  dsimp only
  induction s.rows with
  | nil => rfl
  | cons r rest ih =>
      rw [List.map_cons, List.filter_cons, List.filter_cons, ih]
      by_cases chosen : test r = true
      · rw [if_pos chosen, ids, own r chosen]
        simp
      · rw [if_neg chosen]

namespace Workflow

theorem Order.Allows.permits {o : Order} {x : Ruling} {t : List (Exchange Ask.interface)} {q : Ask}
    (h : o.Allows t q) (ruling : o.ruling? = some x) : x.Permits t q := by
  cases o with
  | approve _ _ | reject _ _ =>
      cases ruling
      exact h
  | create _ | get _ _ | getByName _ _ | isThere _ | list _ _ | count _ | delete _
  | renameOwner _ _ => cases ruling

/-- Whatever is asked for a decision leaves all other requests as they are. -/
theorem Turn.filter_left {t : Turn} {x : Ruling} (concerns : x.Concerns t.query) :
    t.left.rows.filter (·.id != x.request.id) = t.found.rows.filter (·.id != x.request.id) := by
  obtain ⟨asker, found, query, reply⟩ := t
  cases query with
  | statement s =>
      cases s with
      | transition id before after =>
          obtain ⟨rfl, -, -⟩ := concerns
          refine Store.update_filter ?_ fun _ => rfl
          intro r chosen
          exact (Store.liveAt_iff.mp (Bool.and_eq_true_iff.mp chosen).1).2
      | findLive _ | findAny _ | findNamed _ | list _ | count _ => rfl
      | insert _ | renameOwner _ _ | softDelete _ => exact concerns.elim
  | call _ | settings | announce _ _ => rfl

namespace Floor

variable {admits : Floor → Order → Prop} {f₀ f : Floor} {o : Order} {x : Ruling} {t : Turn}
  {before after : List Turn}

/-- In one of these turns an asker found the request of an id live, with the name and the owner of a
draft. -/
def FoundAs (before : List Turn) (asker : Nat) (id : Int) (draft : Draft) : Prop :=
  ∃ check ∈ before, check.asker = asker ∧ check.query = .statement (.findLive id) ∧
    ∃ row, check.found.findLive id = some row ∧ row.name = draft.name ∧
      row.ownerId = draft.ownerId

/-- A live record still has the name and the owner that it was made with. -/
theorem Reached.madeAs_of_live (reached : Reached admits f) (ht : t ∈ f.turns) {row : Request}
    (hrow : row ∈ t.found.rows) (live : row.deleted = false) :
    ∃ made, f.madeAs row.id = some made ∧ row.name = made.draft.name ∧
      row.ownerId = made.draft.ownerId := by
  obtain ⟨earlier, within, stocked⟩ := reached.stocked_found ht
  obtain ⟨made, hmade, stems⟩ := stocked.exists_origin hrow
  refine ⟨made, ?_, stems.name_of_live live, stems.ownerId⟩
  rw [stems.id]
  exact reached.madeAs_eq (within.subset hmade)

/-- Whoever found the request live found it as the copy shows it. -/
theorem Aware.agrees (aware : f.Aware t.asker x.request) (coherent : f.Coherent) (ht : t ∈ f.turns)
    {row : Request} (hrow : row ∈ t.found.rows) (same : row.id = x.request.id)
    (live : row.deleted = false) :
    row.name = x.request.name ∧ row.ownerId = x.request.ownerId := by
  obtain ⟨row', hrow', recalls⟩ := aware.2 t ht rfl
  obtain rfl := (coherent.found t ht).eq_of_id hrow hrow' (same.trans recalls.id.symm)
  exact ⟨recalls.name live, recalls.ownerId⟩

/-- Nothing is asked to be changed before the request was found as the copy shows it. -/
theorem Reached.foundAs (reached : Reached admits f) (aware : f.Aware t.asker x.request)
    (split : f.turns = before ++ t :: after)
    (checked : x.Checked ((before.filter (·.asker == t.asker)).map Turn.exchange)) :
    ∃ made, f.madeAs x.request.id = some made ∧ x.request.name = made.draft.name ∧
      x.request.ownerId = made.draft.ownerId ∧
      FoundAs before t.asker x.request.id made.draft := by
  have coherent := reached.coherent
  obtain ⟨row, looked, -⟩ := checked
  obtain ⟨check, hcheck, exchange⟩ := List.mem_map.mp looked
  obtain ⟨earlier, mine⟩ := List.mem_filter.mp hcheck
  rw [beq_iff_eq] at mine
  have member : check ∈ f.turns := by
    rw [split]
    exact List.mem_append_left _ earlier
  have sound := coherent.found check member
  obtain ⟨hrow, same, live⟩ := mem_of_findLive sound exchange
  obtain ⟨made, madeAs, name, ownerId⟩ := reached.madeAs_of_live member hrow live
  rw [← mine] at aware
  obtain ⟨shownName, shownOwner⟩ := aware.agrees coherent member hrow same live
  rw [same] at madeAs
  refine ⟨made, madeAs, shownName.symm.trans name, shownOwner.symm.trans ownerId, check, earlier,
    mine, congrArg Exchange.query exchange, row, ?_, name, ownerId⟩
  exact sound.findLive_eq_some_iff.mpr ⟨hrow, same, live⟩

/-- What was published was asked for, and so it concerns the request. -/
theorem announcement_of_published {occasion : Occasion} (concerns : x.Concerns t.query)
    (published : t.published? = some occasion) :
    ¬t.query.Reads ∧ occasion = x.announcement.occasion x.operator t.reply.time := by
  obtain ⟨asker, found, query, reply⟩ := t
  cases query with
  | announce operator a =>
      obtain ⟨rfl, rfl⟩ := concerns
      cases published
      exact ⟨id, rfl⟩
  | statement _ | call _ | settings => cases published

/-- From the order on, whoever decides on a copy knows the request. -/
theorem Reached.aware_of_handedOut (reached : Reached admits f₀)
    (handed : f₀.HandedOut x.request) (runs : Runs admits (f₀.take o) f) :
    f.Aware f₀.undertakings.length x.request ∧
      ∃ rest, f.undertakings[f₀.undertakings.length]? = some ⟨o, rest⟩ := by
  have coherent := reached.coherent
  have aware : (f₀.take o).Aware f₀.undertakings.length x.request :=
    coherent.aware_of_shown (coherent.shown_of_handedOut handed)
  have next : (f₀.take o).undertakings[f₀.undertakings.length]? = some ⟨o, o.operation.run⟩ :=
    List.getElem?_concat_length
  exact ⟨aware.runs (coherent.take o) runs, runs.order_kept next⟩

/-- For a copy that was handed out before, with or without the owner's present name. -/
theorem own_request_only (reached : Reached admits f₀) (admitted : admits f₀ o)
    (handed : f₀.HandedOut x.request) (ruling : o.ruling? = some x)
    (runs : Runs admits (f₀.take o) f) :
    (∀ before t after, f.turns = before ++ t :: after → t.asker = f₀.undertakings.length →
      (∀ name ownerId, t.query = .call (.createProject name ownerId) →
        ∃ made, f.madeAs x.request.id = some made ∧ name = made.draft.name ∧
          ownerId = made.draft.ownerId ∧ FoundAs before t.asker x.request.id made.draft) ∧
      (∀ occasion, t.published? = some occasion →
        ∃ made e, f.madeAs x.request.id = some made ∧ occasion.event.request? = some e ∧
          e.requestId = x.request.id ∧ e.project = made.draft.name ∧
          e.ownerId = made.draft.ownerId) ∧
      t.left.rows.filter (·.id != x.request.id) = t.found.rows.filter (·.id != x.request.id)) ∧
    (f.Returned f₀.undertakings.length x (.ok ()) → ∃ occasion,
      (f.turns.filter (·.asker == f₀.undertakings.length)).filterMap Turn.published? =
        [occasion]) := by
  have reached' : Reached admits f := (reached.tail (.ordered o admitted)).trans runs
  have coherent := reached'.coherent
  obtain ⟨aware, rest, ordered⟩ := reached.aware_of_handedOut handed runs
  refine ⟨?_, ?_⟩
  · intro before t after split mine
    obtain ⟨u, hu, allowed⟩ := coherent.allowed split
    rw [mine, ordered] at hu
    cases hu
    obtain ⟨concerns, order⟩ := allowed.permits ruling
    rw [← mine] at aware
    refine ⟨?_, ?_, Turn.filter_left concerns⟩
    · intro name ownerId asked
      rw [asked] at concerns order
      obtain ⟨rfl, rfl⟩ := concerns
      exact reached'.foundAs aware split (order.resolve_left id)
    · intro occasion published
      obtain ⟨changes, rfl⟩ := announcement_of_published concerns published
      obtain ⟨made, madeAs, name, ownerId, -⟩ :=
        reached'.foundAs aware split (order.resolve_left changes)
      obtain ⟨e, said, about, project, owner⟩ := x.announcement_request? t.reply.time
      exact ⟨made, e, madeAs, said, about, project.trans name, owner.trans ownerId⟩
  · intro won
    obtain ⟨now, published⟩ := won.published coherent
    exact ⟨_, published⟩

/-- One looks a request up, and approves it as it was shown. -/
theorem own_request_only_approved : ∃ (f : Floor) (before after : List Turn) (t : Turn),
    f.turns = before ++ t :: after ∧ t.query = .call (.createProject "alpha" 1) ∧
      FoundAs before 2 1 ⟨1, "ann", "alpha"⟩ := by
  let now : Time.Instant := ⟨⟨2026, 6, 1⟩, 12, 0, 0, 0⟩
  let reply : Reply := ⟨now, {}, 0, fun
    | .createProject _ _ => .ok 7
    | .findUser _ => .ok (some ⟨1, "anna", "anna@example.org"⟩)
    | _ => .error (.failed "down")⟩
  let free : Floor → Order → Prop := fun _ _ => True
  let r : Request := ⟨1, 1, "anna", "alpha", .notDetermined, false, .instant now, .instant now⟩
  let project? (t : Turn) : Option (Nat × String × Int) :=
    match t.query with
    | .call (.createProject name ownerId) => some (t.asker, name, ownerId)
    | _ => none
  have played : ((play? free reply [.order (.create ⟨1, "ann", "alpha"⟩), .answer 0,
      .order (.get (.id 1) true), .answer 1, .answer 1] {}).bind fun f₀ =>
        (play? free reply [.answer 2, .answer 2] (f₀.take (.approve "root" r))).map fun f =>
          decide (f₀.HandedOut r ∧ f₀.undertakings.length = 2 ∧
            f.turns.filterMap project? = [(2, "alpha", 1)] ∧
            (f.madeAs 1).map (·.draft) = some ⟨1, "ann", "alpha"⟩)) = some true := by
    decide +kernel
  obtain ⟨f₀, first, played⟩ := Option.bind_eq_some_iff.mp played
  obtain ⟨f, second, facts⟩ := Option.map_eq_some_iff.mp played
  obtain ⟨handed, two, projects, draft⟩ := of_decide_eq_true facts
  obtain ⟨t, ht, asked⟩ : ∃ t ∈ f.turns, project? t = some (2, "alpha", 1) := by
    apply List.mem_filterMap.mp
    rw [projects]
    exact .head _
  obtain ⟨mine, query⟩ : t.asker = 2 ∧ t.query = .call (.createProject "alpha" 1) := by
    dsimp only [project?] at asked
    split at asked
    · rename_i same
      simp only [Option.some.injEq, Prod.mk.injEq] at asked
      obtain ⟨mine, rfl, rfl⟩ := asked
      exact ⟨mine, same⟩
    · cases asked
  obtain ⟨before, after, split⟩ := List.append_of_mem ht
  obtain ⟨turns, -⟩ := own_request_only (x := ⟨"root", r, .approved⟩) (o := .approve "root" r)
    (runs_of_play? first) trivial handed rfl (runs_of_play? second)
  obtain ⟨provisioned, -, -⟩ := turns before t after split (mine.trans two.symm)
  obtain ⟨made, madeAs, -, -, found⟩ := provisioned "alpha" 1 query
  rw [madeAs, Option.map_some, Option.some.injEq] at draft
  rw [mine, draft] at found
  exact ⟨f, before, after, t, split, query, found⟩

end Floor
end Workflow
end ProjectDesk
