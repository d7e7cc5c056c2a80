import ProjectDesk.Dispatch.Dispatcher
import ProjectDesk.Proofs.Workflow.Account
import ProjectDesk.Proofs.Workflow.Snapshot

/-!
Deciding side by side. However many want to decide a request, one of them wins at most, and what
the store says, what was published and what each of them was told agree about it.
-/

namespace ProjectDesk

/-- An announcement as the event that is published for it. -/
def Announcement.occasion (a : Announcement) (operator : String) (now : Time.Instant) :
    Occasion :=
  ⟨a.topic, operator, a.event now⟩

/-- The occasion of an announcement is the one that its subscribers get. -/
theorem Dispatcher.announce_eq {σ : Type} (operator : String) (a : Announcement)
    (now : Time.Instant) (d : Dispatcher σ) :
    d.announce operator a now =
      d.deliverAll (a.occasion operator now) true (d.registry.lookup a.topic) :=
  rfl

/-- The request that an event is about, if it is about one. -/
def DomainEvent.requestId? : DomainEvent → Option Int
  | .approveRequest e | .rejectRequest e => some e.requestId
  | _ => none

namespace Workflow

/-- What was published in this turn. -/
def Turn.published? (t : Turn) : Option Occasion :=
  t.exchange.announcement?.map fun (operator, a) => a.occasion operator t.reply.time

namespace Floor

variable {admits : Floor → Order → Prop} {f : Floor} {i j : Nat} {id : Int} {x y : Ruling}
  {t t' : Turn} {decision : Status} {result : Except RequestError Unit} {current : Request}

/-- What was published about a request, in this order. -/
def publishedFor (id : Int) (f : Floor) : List Occasion :=
  (f.turns.filterMap Turn.published?).filter (·.event.requestId? == some id)

/-- Whoever was to decide has returned. -/
inductive Returned (f : Floor) (i : Nat) : Ruling → Except RequestError Unit → Prop
  | approve {operator : String} {r : Request} {result : Except RequestError Unit}
      (h : f.undertakings[i]? = some ⟨.approve operator r, .done result⟩) :
      Returned f i ⟨operator, r, .approved⟩ result
  | reject {operator : String} {r : Request} {result : Except RequestError Unit}
      (h : f.undertakings[i]? = some ⟨.reject operator r, .done result⟩) :
      Returned f i ⟨operator, r, .rejected⟩ result

theorem Returned.account (h : f.Returned i x result) (coherent : f.Coherent) :
    Account x (f.exchangesOf i) result := by
  cases h with
  | @approve operator r result h =>
      exact (approve_account operator r).of_leads (coherent.traced i _ h)
  | @reject operator r result h =>
      exact (reject_account operator r).of_leads (coherent.traced i _ h)

theorem Returned.known (h : f.Returned i x result) (informed : f.Informed) :
    f.Aware i x.request := by
  cases h with
  | approve h => exact informed i _ _ h rfl
  | reject h => exact informed i _ _ h rfl

theorem Returned.unique {result' : Except RequestError Unit} (h : f.Returned i x result)
    (h' : f.Returned i y result') : x = y ∧ result = result' := by
  cases h with
  | approve h =>
      cases h' with
      | approve h' =>
          cases h.symm.trans h'
          exact ⟨rfl, rfl⟩
      | reject h' => cases h.symm.trans h'
  | reject h =>
      cases h' with
      | approve h' => cases h.symm.trans h'
      | reject h' =>
          cases h.symm.trans h'
          exact ⟨rfl, rfl⟩

theorem mem_exchangesOf (ht : t ∈ f.turns) : t.exchange ∈ f.exchangesOf t.asker :=
  List.mem_map_of_mem (List.mem_filter.mpr ⟨ht, beq_self_eq_true _⟩)

theorem Quiet.done (quiet : f.Quiet) (inRange : i < f.undertakings.length) :
    ∃ (o : Order) (result : Except RequestError o.Result),
      f.undertakings[i]? = some ⟨o, .done result⟩ := by
  obtain ⟨result, done⟩ := quiet _ (List.getElem_mem inRange)
  refine ⟨_, result, ?_⟩
  rw [List.getElem?_eq_getElem inRange, ← done]

/-- Once all is done, every turn belongs to somebody who was to decide and has returned, or was
silent. -/
theorem Coherent.returned (coherent : f.Coherent) (quiet : f.Quiet) (ht : t ∈ f.turns) :
    (∃ x result, f.Returned t.asker x result) ∨
      (t.exchange.decision? = none ∧ t.exchange.announcement? = none) := by
  obtain ⟨o, result, hu⟩ := quiet.done (coherent.asked t ht)
  have mine := mem_exchangesOf ht
  cases ruling : o.ruling? with
  | none =>
      have silent : Silent (f.exchangesOf t.asker) :=
        .of_harmless ((Order.harmless ruling).of_leads (coherent.traced _ _ hu)).1
      exact .inr ⟨List.filterMap_eq_nil_iff.mp silent.1 _ mine,
        List.filterMap_eq_nil_iff.mp silent.2 _ mine⟩
  | some x =>
      cases o with
      | approve operator r => exact .inl ⟨_, result, .approve hu⟩
      | reject operator r => exact .inl ⟨_, result, .reject hu⟩
      | create _ | get _ _ | getByName _ _ | isThere _ | list _ _ | count _ | delete _
      | renameOwner _ _ => cases ruling

/-- Who wrote a decision has won by it. -/
theorem Coherent.winner_of_decision (coherent : f.Coherent) (quiet : f.Quiet) (ht : t ∈ f.turns)
    (written : t.exchange.decision? = some (id, decision)) :
    ∃ x, f.Returned t.asker x (.ok ()) ∧ x.request.id = id ∧ x.decision = decision := by
  rcases coherent.returned quiet ht with ⟨x, result, returned⟩ | ⟨silent, -⟩
  · have mine : (id, decision) ∈ (f.exchangesOf t.asker).filterMap Exchange.decision? :=
      List.mem_filterMap.mpr ⟨_, mem_exchangesOf ht, written⟩
    have account := returned.account coherent
    cases result with
    | ok _ =>
        rw [account.1, List.mem_singleton] at mine
        cases mine
        exact ⟨x, returned, rfl, rfl⟩
    | error e =>
        rw [account.1.1] at mine
        cases mine
  · rw [silent] at written
    cases written

/-- Who announced something and has returned has won. -/
theorem Returned.announced (h : f.Returned t.asker x result) (coherent : f.Coherent)
    (ht : t ∈ f.turns) {operator : String} {a : Announcement}
    (said : t.exchange.announcement? = some (operator, a)) :
    result = .ok () ∧ x.operator = operator ∧ x.announcement = a := by
  have mine : (operator, a) ∈ (f.exchangesOf t.asker).filterMap Exchange.announcement? :=
    List.mem_filterMap.mpr ⟨_, mem_exchangesOf ht, said⟩
  have account := h.account coherent
  cases result with
  | ok _ =>
      rw [account.2, List.mem_singleton] at mine
      cases mine
      exact ⟨rfl, rfl, rfl⟩
  | error e =>
      rw [account.1.2] at mine
      cases mine

/-- Who announced something has won. -/
theorem Coherent.winner_of_announcement (coherent : f.Coherent) (quiet : f.Quiet)
    (ht : t ∈ f.turns) {operator : String} {a : Announcement}
    (said : t.exchange.announcement? = some (operator, a)) :
    ∃ x, f.Returned t.asker x (.ok ()) ∧ x.operator = operator ∧ x.announcement = a := by
  rcases coherent.returned quiet ht with ⟨x, result, returned⟩ | ⟨-, silent⟩
  · obtain ⟨rfl, about⟩ := returned.announced coherent ht said
    exact ⟨x, returned, about⟩
  · rw [silent] at said
    cases said

/-- Who has won wrote the decision in a turn of its own. -/
theorem Returned.decision_turn (h : f.Returned i x (.ok ())) (coherent : f.Coherent) :
    ∃ t ∈ f.turns, t.asker = i ∧ t.exchange.decision? = some (x.request.id, x.decision) := by
  have mine : (x.request.id, x.decision) ∈ (f.exchangesOf i).filterMap Exchange.decision? := by
    rw [(h.account coherent).1]
    exact List.mem_singleton_self _
  obtain ⟨e, he, written⟩ := List.mem_filterMap.mp mine
  obtain ⟨t, ht, rfl⟩ := List.mem_map.mp he
  obtain ⟨member, same⟩ := List.mem_filter.mp ht
  exact ⟨t, member, beq_iff_eq.mp same, written⟩

/-- Who has won published the decision, once. -/
theorem Returned.published (h : f.Returned i x (.ok ())) (coherent : f.Coherent) :
    ∃ now, (f.turns.filter (·.asker == i)).filterMap Turn.published? =
      [x.announcement.occasion x.operator now] := by
  have account := (h.account coherent).2
  rw [exchangesOf, List.filterMap_map] at account
  obtain ⟨before, t, after, split, none, said, rest⟩ := List.filterMap_eq_cons_iff.mp account
  refine ⟨t.reply.time, List.filterMap_eq_cons_iff.mpr ⟨before, t, after, split, ?_, ?_, ?_⟩⟩
  · intro t' ht'
    exact Option.map_eq_none_iff.mpr (none t' ht')
  · exact Option.map_eq_some_iff.mpr ⟨_, said, rfl⟩
  · rw [List.filterMap_eq_nil_iff] at rest ⊢
    intro t' ht'
    exact Option.map_eq_none_iff.mpr (rest t' ht')

/-- A decision leaves no other one to be written. -/
theorem Coherent.not_decided_after (coherent : f.Coherent) {decision' : Status} (ht : t ∈ f.turns)
    (ht' : t' ∈ f.turns) (before : t.left.Precedes t'.found)
    (written : t.exchange.decision? = some (id, decision)) :
    t'.exchange.decision? ≠ some (id, decision') := by
  intro written'
  obtain ⟨-, ⟨r, hr, sameId, status⟩, terminal⟩ :=
    t.rows_of_decision (coherent.lawful t ht) written
  obtain ⟨⟨r', hr', sameId', undecided⟩, -⟩ :=
    t'.rows_of_decision (coherent.lawful t' ht') written'
  have kept := before.at_id (coherent.found t' ht') hr hr' (sameId'.trans sameId.symm)
  have decided : r.status ≠ .notDetermined := by
    rw [status]
    exact bne_iff_ne.mp terminal
  exact decided ((kept.decided decided).symm.trans undecided)

/-- Of two turns one comes first. -/
theorem Coherent.order_cases (coherent : f.Coherent) (ht : t ∈ f.turns) (ht' : t' ∈ f.turns) :
    t = t' ∨ t.left.Precedes t'.found ∨ t'.left.Precedes t.found := by
  obtain ⟨m, hm, rfl⟩ := List.getElem_of_mem ht
  obtain ⟨n, hn, rfl⟩ := List.getElem_of_mem ht'
  have ordered := List.pairwise_iff_getElem.mp coherent.ordered
  rcases Nat.lt_trichotomy m n with before | rfl | after
  · exact .inr (.inl (ordered m n hm hn before))
  · exact .inl rfl
  · exact .inr (.inr (ordered n m hn hm after))

/-- Only one of those who were to decide a request wins. -/
theorem Coherent.winner_unique (coherent : f.Coherent) (h : f.Returned i x (.ok ()))
    (h' : f.Returned j y (.ok ())) (same : x.request.id = y.request.id) : i = j := by
  obtain ⟨t, ht, rfl, written⟩ := h.decision_turn coherent
  obtain ⟨t', ht', rfl, written'⟩ := h'.decision_turn coherent
  rw [← same] at written'
  rcases coherent.order_cases ht ht' with rfl | before | after
  · rfl
  · exact absurd written' (coherent.not_decided_after ht ht' before written)
  · exact absurd written (coherent.not_decided_after ht' ht after written')

/-- The store shows every decision that was written. -/
theorem Coherent.findAny_of_decision (coherent : f.Coherent) (ht : t ∈ f.turns)
    (written : t.exchange.decision? = some (id, decision)) :
    ∃ row, f.store.findAny id = some row ∧ row.status = decision := by
  obtain ⟨-, ⟨r, hr, sameId, status⟩, terminal⟩ :=
    t.rows_of_decision (coherent.lawful t ht) written
  obtain ⟨row, hrow, kept⟩ := coherent.left t ht r hr
  refine ⟨row, coherent.sound.findAny_eq_some_iff.mpr ⟨hrow, kept.id.trans sameId⟩, ?_⟩
  rw [kept.decided (by rw [status]; exact bne_iff_ne.mp terminal), status]

theorem announcement_requestId (x : Ruling) (now : Time.Instant) :
    (x.announcement.occasion x.operator now).event.requestId? = some x.request.id := by
  obtain ⟨operator, r, decision⟩ := x
  cases decision <;> rfl

/-- Everything that is published comes from a winner. -/
theorem Coherent.winner_of_published (coherent : f.Coherent) (quiet : f.Quiet) (ht : t ∈ f.turns)
    {o : Occasion} (published : t.published? = some o) :
    ∃ x, f.Returned t.asker x (.ok ()) ∧ o.event.requestId? = some x.request.id := by
  obtain ⟨⟨operator, a⟩, said, rfl⟩ := Option.map_eq_some_iff.mp published
  obtain ⟨x, won, rfl, rfl⟩ := coherent.winner_of_announcement quiet ht said
  exact ⟨x, won, announcement_requestId x _⟩

theorem Coherent.publishedFor_of_winner (coherent : f.Coherent) (quiet : f.Quiet)
    (won : f.Returned i x (.ok ())) :
    ∃ now, f.publishedFor x.request.id = [x.announcement.occasion x.operator now] := by
  have own : f.publishedFor x.request.id =
      (f.turns.filter (·.asker == i)).filterMap Turn.published? := by
    unfold publishedFor
    rw [List.filter_filterMap, List.filterMap_filter]
    refine List.filterMap_congr ?_
    intro t ht
    cases published : t.published? with
    | none => simp
    | some o =>
        obtain ⟨y, hy, about⟩ := coherent.winner_of_published quiet ht published
        by_cases mine : t.asker = i
        · rw [mine] at hy
          simp [about, mine, (hy.unique won).1]
        · have other : y.request.id ≠ x.request.id :=
            fun same => mine (coherent.winner_unique hy won same)
          simp [about, mine, other]
  rw [own]
  exact won.published coherent

theorem Coherent.publishedFor_of_no_winner (coherent : f.Coherent) (quiet : f.Quiet)
    (none : ∀ i x, f.Returned i x (.ok ()) → x.request.id ≠ id) : f.publishedFor id = [] := by
  unfold publishedFor
  rw [List.filter_eq_nil_iff]
  intro o ho about
  obtain ⟨t, ht, published⟩ := List.mem_filterMap.mp ho
  obtain ⟨x, won, same⟩ := coherent.winner_of_published quiet ht published
  rw [same, beq_iff_eq, Option.some.injEq] at about
  exact none _ x won about

/-! Conflicts. -/

theorem mem_of_findLive (sound : t.found.Sound)
    (h : t.exchange = ⟨.statement (.findLive id), .ok (some current)⟩) :
    current ∈ t.found.rows ∧ current.id = id ∧ current.deleted = false := by
  obtain ⟨asker, found, query, reply⟩ := t
  obtain ⟨asked, answered⟩ := Exchange.mk.inj h
  dsimp only at asked
  subst asked
  have read : (found.findLive id).mapM Request.handOut = .ok (some current) :=
    eq_of_heq answered
  rw [sound.findLive_handOut] at read
  exact sound.findLive_eq_some_iff.mp (Except.ok.inj read)

theorem decided_of_lost
    (h : t.exchange = ⟨.statement (.transition id .notDetermined decision), .ok (0 : Nat)⟩)
    {r : Request} (hr : r ∈ t.found.rows) (same : r.id = id) (live : r.deleted = false) :
    r.status ≠ .notDetermined := by
  obtain ⟨asker, found, query, reply⟩ := t
  obtain ⟨asked, answered⟩ := Exchange.mk.inj h
  dsimp only at asked
  subst asked
  exact Statement.status_of_no_row (eq_of_heq answered) hr same live

/-- A record that some turn found keeps its decision. -/
theorem Coherent.findAny_of_decided (coherent : f.Coherent) (ht : t ∈ f.turns) {r : Request}
    (hr : r ∈ t.found.rows) (decided : r.status ≠ .notDetermined) :
    ∃ row, f.store.findAny r.id = some row ∧ row.status = r.status := by
  have later := (t.advances (coherent.lawful t ht)).precedes.trans (coherent.left t ht)
  obtain ⟨row, hrow, kept⟩ := later r hr
  exact ⟨row, coherent.sound.findAny_eq_some_iff.mpr ⟨hrow, kept.id⟩, kept.decided decided⟩

/-- Who loses and reads again what there is finds it decided. -/
theorem Coherent.decided_of_reread (coherent : f.Coherent) (ht : t ∈ f.turns) (ht' : t' ∈ f.turns)
    (before : t.left.Precedes t'.found)
    (lost : t.exchange = ⟨.statement (.transition id .notDetermined decision), .ok (0 : Nat)⟩)
    (reread : t'.exchange = ⟨.statement (.findLive id), .ok (some current)⟩) {r : Request}
    (hr : r ∈ t.found.rows) (known : r.id = id) : current.status ≠ .notDetermined := by
  obtain ⟨found, same, live⟩ := mem_of_findLive (coherent.found t' ht') reread
  have precedes := (t.advances (coherent.lawful t ht)).precedes.trans before
  have kept : r.Precedes current :=
    precedes.at_id (coherent.found t' ht') hr found (same.trans known.symm)
  have wasDecided := decided_of_lost lost hr known (kept.live live)
  rw [kept.decided wasDecided]
  exact wasDecided

/-- A conflict names the decision that is stored. -/
theorem Returned.conflict {cause : ConflictCause}
    (h : f.Returned i x (.error (.conflict cause))) (coherent : f.Coherent)
    (informed : f.Informed) :
    ∃ row, f.store.findAny x.request.id = some row ∧ row.status ≠ .notDetermined ∧
      (cause = .alreadyDecided x.request.id row.status ∨
        cause = .decidedMeanwhile x.request.id row.status) := by
  obtain ⟨now, earlier⟩ := h.known informed
  have seen := (h.account coherent).2 cause rfl
  cases seen with
  | onCopy decided =>
      obtain ⟨row, hrow, recalls⟩ := now
      refine ⟨row, coherent.sound.findAny_eq_some_iff.mpr ⟨hrow, recalls.id⟩, ?_, .inl ?_⟩
      · rw [recalls.status decided]
        exact decided
      · rw [recalls.status decided]
  | @stored current read decided =>
      obtain ⟨t, ht, same⟩ := List.mem_map.mp read
      have member := List.mem_of_mem_filter ht
      obtain ⟨found, id, -⟩ := mem_of_findLive (coherent.found t member) same
      obtain ⟨row, hrow, status⟩ := coherent.findAny_of_decided member found decided
      rw [id] at hrow
      refine ⟨row, hrow, ?_, .inl ?_⟩
      · rw [status]
        exact decided
      · rw [status, id]
  | @lost current read =>
      obtain ⟨both, within, same⟩ := List.sublist_map_iff.mp read
      obtain ⟨t, rest, rfl, wrote, others⟩ := List.map_eq_cons_iff.mp same.symm
      obtain ⟨t', rest, rfl, reread, others⟩ := List.map_eq_cons_iff.mp others
      obtain rfl := List.map_eq_nil_iff.mp others
      obtain ⟨ht, mine⟩ := List.mem_filter.mp (within.subset (.head _))
      obtain ⟨ht', -⟩ := List.mem_filter.mp (within.subset (.tail _ (.head _)))
      have before : t.left.Precedes t'.found :=
        coherent.ordered.forall_sublist (within.trans List.filter_sublist)
      obtain ⟨found, id, -⟩ := mem_of_findLive (coherent.found t' ht') reread
      obtain ⟨r, hr, recalls⟩ := earlier t ht (beq_iff_eq.mp mine)
      have decided := coherent.decided_of_reread ht ht' before wrote reread hr recalls.id
      obtain ⟨row, hrow, status⟩ := coherent.findAny_of_decided ht' found decided
      rw [id] at hrow
      refine ⟨row, hrow, ?_, .inr ?_⟩
      · rw [status]
        exact decided
      · rw [status]

theorem Returned.decision_cases (h : f.Returned i x result) :
    (x.decision = .approved ∧ x.announcement.topic = Topic.approveRequest ∧
        x.announcement.kind = .approveRequest) ∨
      (x.decision = .rejected ∧ x.announcement.topic = Topic.rejectRequest ∧
        x.announcement.kind = .rejectRequest) := by
  cases h with
  | approve _ => exact .inl ⟨rfl, rfl, rfl⟩
  | reject _ => exact .inr ⟨rfl, rfl, rfl⟩

theorem occasion_kind (a : Announcement) (operator : String) (now : Time.Instant) :
    (a.occasion operator now).event.kind = a.kind := by
  cases a <;> rfl

theorem one_decision_wins (reached : Reached Snapshots f) (quiet : f.Quiet) (id : Int) :
    ((∃ i x o, f.Returned i x (.ok ()) ∧ x.request.id = id ∧
        (∃ row, f.store.findAny id = some row ∧ row.status = x.decision) ∧
        f.publishedFor id = [o] ∧
        ((x.decision = .approved ∧ o.topic = Topic.approveRequest ∧
            o.event.kind = .approveRequest) ∨
          (x.decision = .rejected ∧ o.topic = Topic.rejectRequest ∧
            o.event.kind = .rejectRequest)) ∧
        ∀ j y result, f.Returned j y result → y.request.id = id → j ≠ i →
          ∃ e, result = .error e) ∨
      ((∀ j y result, f.Returned j y result → y.request.id = id → ∃ e, result = .error e) ∧
        (∀ row, f.store.findAny id = some row → row.status = .notDetermined) ∧
        f.publishedFor id = [])) ∧
    ∀ j y cause, f.Returned j y (.error (.conflict cause)) → y.request.id = id →
      ∃ row, f.store.findAny id = some row ∧ row.status ≠ .notDetermined ∧
        (cause = .alreadyDecided id row.status ∨ cause = .decidedMeanwhile id row.status) := by
  have coherent := reached.coherent
  refine ⟨?_, ?_⟩
  · by_cases won : ∃ i x, f.Returned i x (.ok ()) ∧ x.request.id = id
    · obtain ⟨i, x, won, rfl⟩ := won
      obtain ⟨t, ht, -, written⟩ := won.decision_turn coherent
      obtain ⟨now, published⟩ := coherent.publishedFor_of_winner quiet won
      refine .inl ⟨i, x, _, won, rfl, coherent.findAny_of_decision ht written, published, ?_, ?_⟩
      · rw [occasion_kind]
        exact won.decision_cases
      · intro j y result returned same other
        cases result with
        | ok _ => exact absurd (coherent.winner_unique returned won same) other
        | error e => exact ⟨e, rfl⟩
    · refine .inr ⟨?_, ?_, ?_⟩
      · intro j y result returned same
        cases result with
        | ok _ => exact absurd ⟨j, y, returned, same⟩ won
        | error e => exact ⟨e, rfl⟩
      · intro row found
        obtain ⟨member, rfl⟩ := coherent.sound.findAny_eq_some_iff.mp found
        by_cases undecided : row.status = .notDetermined
        · exact undecided
        · obtain ⟨t, ht, written⟩ := coherent.decided row member undecided
          obtain ⟨x, returned, same, -⟩ := coherent.winner_of_decision quiet ht written
          exact absurd ⟨_, x, returned, same⟩ won
      · exact coherent.publishedFor_of_no_winner quiet fun i x returned same =>
          won ⟨i, x, returned, same⟩
  · rintro j y cause returned rfl
    exact returned.conflict coherent reached.informed

/-- One approves while another rejects, and both have looked before either has decided. -/
theorem one_decision_wins_approved : ∃ f o, Reached Snapshots f ∧ f.Quiet ∧
    f.undertakings.length = 3 ∧ f.publishedFor 1 = [o] ∧ o.event.kind = .approveRequest := by
  let now : Time.Instant := ⟨⟨2026, 6, 1⟩, 12, 0, 0, 0⟩
  let reply : Reply := ⟨now, {}, 0, fun
    | .createProject _ _ => .ok 7
    | .createQuota _ _ => .ok ()
    | _ => .error (.failed "down")⟩
  let row : Request := ⟨1, 1, "ann", "alpha", .notDetermined, false, .instant now, .instant now⟩
  let moves : List Move := [.order (.create ⟨1, "ann", "alpha"⟩), .answer 0,
    .order (.approve "root" row), .order (.reject "root" row), .answer 1, .answer 2, .answer 1,
    .answer 1, .answer 1, .answer 1, .answer 2, .answer 2, .answer 1]
  have played : (play? Snapshots reply moves {}).map (fun f =>
      (decide f.Quiet, f.undertakings.length, (f.store.findAny 1).map (·.status))) =
        some (true, 3, some .approved) := by
    decide +kernel
  obtain ⟨f, runs, facts⟩ := Option.map_eq_some_iff.mp played
  simp only [Prod.mk.injEq, decide_eq_true_eq] at facts
  obtain ⟨quiet, three, status⟩ := facts
  have reached : Reached Snapshots f := runs_of_play? runs
  obtain ⟨row, found, approved⟩ := Option.map_eq_some_iff.mp status
  rcases (one_decision_wins reached quiet 1).1 with
    ⟨i, x, o, -, -, ⟨row', found', decided⟩, published, kind, -⟩ | ⟨-, undecided, -⟩
  · refine ⟨f, o, reached, quiet, three, published, ?_⟩
    cases found.symm.trans found'
    rcases kind with ⟨-, -, kind⟩ | ⟨rejected, -⟩
    · exact kind
    · rw [approved, rejected] at decided
      cases decided
  · rw [undecided row found] at approved
    cases approved

end Floor
end Workflow
end ProjectDesk
