import ProjectDesk.Proofs.Workflow.Snapshot

/-!
The copies that callers have. Whatever is got or listed was read from the store in some turn, as it
was kept there; at most the owner's name was brought up to date. So a copy that was handed out shows
what there was.
-/

namespace ProjectDesk

theorem Request.mapM_handOut {rows : List Request} (stamped : ∀ r ∈ rows, r.Stamped) :
    rows.mapM Request.handOut = .ok rows := by
  induction rows with
  | nil => rfl
  | cons r rest ih =>
      rw [List.mapM_cons, (stamped r (.head _)).handOut, ih fun r' hr' => stamped r' (.tail _ hr')]
      rfl

theorem Query.mem_of_mem_page {q : Query} {rows : List Request} {r : Request}
    (hr : r ∈ q.cutPage (q.sorted rows)) : r ∈ rows := by
  have sorted : r ∈ q.sorted rows := by
    unfold cutPage at hr
    split at hr
    · exact hr
    · exact List.mem_of_mem_drop (List.mem_of_mem_take hr)
  rw [Query.sorted, List.mem_mergeSort] at sorted
  exact List.mem_of_mem_filter sorted

namespace Statement

variable {s : Store} {r : Request} {time : Time.Instant}

/-- The requests that a caller gets to see. -/
def handed : (st : Statement) → st.Answer → List Request
  | .findLive _, .ok found | .findAny _, .ok found | .findNamed _, .ok found => found.toList
  | .list _, .ok rows => rows
  | _, _ => []

theorem mem_rows_of_handed {st : Statement} (sound : s.Sound)
    (hr : r ∈ st.handed (st.run time s).1) : r ∈ s.rows := by
  cases st with
  | findLive id =>
      simp only [run, sound.findLive_handOut, handed, Option.mem_toList] at hr
      exact List.mem_of_find?_eq_some hr
  | findAny id =>
      have kept : (s.findAny id).mapM Request.handOut = .ok (s.findAny id) :=
        sound.mapM_handOut fun _ => List.mem_of_find?_eq_some
      simp only [run, kept, handed, Option.mem_toList] at hr
      exact List.mem_of_find?_eq_some hr
  | findNamed name =>
      have kept : (s.findNamed name).mapM Request.handOut = .ok (s.findNamed name) :=
        sound.mapM_handOut fun _ => List.mem_of_find?_eq_some
      simp only [run, kept, handed, Option.mem_toList] at hr
      exact List.mem_of_find?_eq_some hr
  | list q =>
      have stamped : ∀ r ∈ s.list q, r.Stamped := fun r hr =>
        sound.stamped r (Query.mem_of_mem_page hr)
      simp only [run, Request.mapM_handOut stamped, handed] at hr
      exact Query.mem_of_mem_page hr
  | insert _ | count _ | transition _ _ _ | renameOwner _ _ | softDelete _ => cases hr

end Statement

def Exchange.handed (e : Exchange Ask.interface) : List Request :=
  match e with
  | ⟨.statement s, answer⟩ => s.handed answer
  | _ => []

namespace Workflow
open Operation

theorem Turn.mem_found_of_handed {t : Turn} (sound : t.found.Sound) {r : Request}
    (hr : r ∈ t.exchange.handed) : r ∈ t.found.rows := by
  obtain ⟨asker, found, query, reply⟩ := t
  cases query with
  | statement s => exact Statement.mem_rows_of_handed sound hr
  | call _ | settings | announce _ _ => cases hr

/-- A copy of what was handed out, perhaps with another name of the owner. -/
def Lends (t : List (Exchange Ask.interface)) (r : Request) : Prop :=
  ∃ e ∈ t, ∃ row ∈ e.handed, { row with ownerName := r.ownerName } = r

theorem Lends.append {t : List (Exchange Ask.interface)} {r : Request} (h : Lends t r)
    (more : List (Exchange Ask.interface)) : Lends (t ++ more) r := by
  obtain ⟨e, he, row, hrow, same⟩ := h
  exact ⟨e, List.mem_append_left more he, row, hrow, same⟩

theorem Lends.withOwnerName {t : List (Exchange Ask.interface)} {r : Request} (h : Lends t r)
    (names : OwnerNames) : Lends t (withOwnerName names r) := by
  obtain ⟨e, he, row, hrow, same⟩ := h
  refine ⟨e, he, row, hrow, ?_⟩
  unfold Workflow.withOwnerName
  split
  · rw [← same]
  · exact same

theorem find_lends (ref : RequestRef) :
    (find ref).Ensures fun t result => ∀ r, result = .ok r → Lends t r := by
  cases ref with
  | id _ | name _ =>
      unfold find
      dsimp only
      rw [ensures_bind, ensures_statement]
      refine ⟨?_, fun e r failed => nomatch failed⟩
      intro found
      cases found with
      | none => exact fun r failed => nomatch failed
      | some row =>
          intro r result
          cases result
          exact ⟨_, .head _, row, .head _, rfl⟩

/-- Bringing the owners' names up to date changes nothing else. -/
theorem askOwners_lends {rows : List Request} {t : List (Exchange Ask.interface)}
    (lends : ∀ r ∈ rows, Lends t r) :
    (askOwners [] rows).Ensures fun t' _ =>
      ∀ names, ∀ r ∈ rows, Lends (t ++ t') (withOwnerName names r) :=
  Program.ensures_of_forall fun t' _ names r hr => ((lends r hr).withOwnerName names).append t'

theorem get_lends (ref : RequestRef) (withOwner : Bool) :
    (get ref withOwner).Ensures fun t result => ∀ r, result = .ok r → Lends t r := by
  unfold get
  rw [ensures_bind]
  refine (find_lends ref).mono fun t result lends => ?_
  cases result with
  | error e => exact fun r failed => nomatch failed
  | ok row =>
      dsimp only
      split
      · have own : ∀ r ∈ [row], Lends t r := by
          intro r hr
          rw [List.mem_singleton.mp hr]
          exact lends row rfl
        rw [ensures_bind]
        refine (askOwners_lends own).mono fun t' result lends => ?_
        cases result with
        | error e => exact fun r failed => nomatch failed
        | ok names =>
            intro r result
            cases result
            rw [List.append_nil]
            exact lends names row (.head _)
      · intro r result
        cases result
        rw [List.append_nil]
        exact lends row rfl

theorem getByName_lends (name : String) (withOwner : Bool) :
    (getByName name withOwner).Ensures fun t result => ∀ r, result = .ok r → Lends t r := by
  unfold getByName
  split
  · exact fun r failed => nomatch failed
  · exact get_lends _ _

theorem list_lends (q : Query) (withOwner : Bool) :
    (list q withOwner).Ensures fun t result =>
      ∀ rows, result = .ok rows → ∀ r ∈ rows, Lends t r := by
  unfold list
  rw [ensures_bind, ensures_statement]
  refine ⟨?_, fun e rows failed => nomatch failed⟩
  intro rows
  have own : ∀ r ∈ rows, Lends [⟨Ask.statement (.list q), .ok rows⟩] r :=
    fun r hr => ⟨_, .head _, r, hr, rfl⟩
  dsimp only
  split
  · unfold loadOwners
    rw [ensures_bind]
    refine (askOwners_lends own).mono fun t' result lends => ?_
    cases result with
    | error e => exact fun rows failed => nomatch failed
    | ok names =>
        intro rows result r hr
        cases result
        obtain ⟨row, hrow, rfl⟩ := List.mem_map.mp hr
        rw [List.append_nil]
        exact lends names row hrow
  · intro rows result r hr
    cases result
    exact own r hr

/-- What a caller has in hand once the order is carried out. -/
def Undertaking.handed : Undertaking → List Request
  | ⟨.get _ _, .done (.ok r)⟩ | ⟨.getByName _ _, .done (.ok r)⟩ => [r]
  | ⟨.list _ _, .done (.ok rows)⟩ => rows
  | _ => []

namespace Floor

variable {f : Floor} {r : Request}

def HandedOut (f : Floor) (r : Request) : Prop :=
  ∃ u ∈ f.undertakings, r ∈ u.handed

instance (f : Floor) (r : Request) : Decidable (f.HandedOut r) :=
  inferInstanceAs (Decidable (∃ u ∈ f.undertakings, r ∈ u.handed))

theorem Coherent.shown_of_lends (h : f.Coherent) {i : Nat} (lends : Lends (f.exchangesOf i) r) :
    f.Shown r := by
  obtain ⟨e, he, row, hrow, same⟩ := lends
  obtain ⟨t, ht, rfl⟩ := List.mem_map.mp he
  have member := List.mem_of_mem_filter ht
  have found := Turn.mem_found_of_handed (h.found t member) hrow
  exact ⟨t.found, List.mem_append_left _ (List.mem_map_of_mem member), row, found, same⟩

/-- What is handed out was in the store at some time. -/
theorem Coherent.shown_of_handedOut (h : f.Coherent) (handed : f.HandedOut r) : f.Shown r := by
  obtain ⟨u, hu, hr⟩ := handed
  obtain ⟨i, inRange, rfl⟩ := List.getElem_of_mem hu
  have traced := h.traced i _ (List.getElem?_eq_getElem inRange)
  generalize f.undertakings[i] = u at hr traced
  apply h.shown_of_lends (i := i)
  unfold Undertaking.handed at hr
  split at hr
  · rename_i ref withOwner r'
    rw [List.mem_singleton.mp hr]
    exact (get_lends ref withOwner).of_leads traced _ rfl
  · rename_i name withOwner r'
    rw [List.mem_singleton.mp hr]
    exact (getByName_lends name withOwner).of_leads traced _ rfl
  · rename_i q withOwner rows
    exact (list_lends q withOwner).of_leads traced rows rfl r hr
  · cases hr

end Floor
end Workflow
end ProjectDesk
