import ProjectDesk.Proofs.Store.Listing
import ProjectDesk.Proofs.Workflow.HandedOut
import ProjectDesk.Proofs.Workflow.Naming

/-!
Listing and counting, against what they are to be. On every store that operations side by side can
bring about, a listing without pages is the one list of the live requests that pass all filters, in
the strict order of its sort; counting gives its length, and paging only cuts it.
-/

namespace ProjectDesk.Workflow

variable {q : Query} {s : Store}

/-- One operation by itself, all of whose questions find the surroundings alike. -/
def Reply.carryOut {α : Type} (reply : Reply) (o : Operation α) (s : Store) :
    Except RequestError α × Store :=
  o.run.run (fun ask s => reply.respond s ask) s

/-- What follows an operation may also look at how it failed. -/
theorem Reply.carryOut_mk {α β : Type} (reply : Reply) (x : Operation α)
    (next : Except RequestError α → Program Ask.interface (Except RequestError β)) (s : Store) :
    reply.carryOut (ExceptT.mk (x.run >>= next)) s =
      reply.carryOut (ExceptT.mk (next (reply.carryOut x s).1)) (reply.carryOut x s).2 :=
  Program.run_bind _ x.run next s

theorem Reply.carryOut_bind {α β : Type} (reply : Reply) (x : Operation α) (f : α → Operation β)
    (s : Store) :
    reply.carryOut (x >>= f) s =
      match reply.carryOut x s with
      | (.ok a, s') => reply.carryOut (f a) s'
      | (.error e, s') => (.error e, s') := by
  refine (reply.carryOut_mk x (ExceptT.bindCont f) s).trans ?_
  rcases reply.carryOut x s with ⟨_ | _, s'⟩ <;> rfl

theorem Reply.carryOut_query (reply : Reply) (st : Statement) (s : Store) :
    reply.carryOut (Operation.query (.statement st)) s =
      (.ok (st.run reply.time s).1, (st.run reply.time s).2) := rfl

theorem Reply.carryOut_statement {α : Type} (reply : Reply) (st : Statement)
    (next : st.Result → Operation α) (s : Store) :
    reply.carryOut (Operation.statement st >>= next) s =
      match st.run reply.time s with
      | (.ok result, s') => reply.carryOut (next result) s'
      | (.error e, s') => (.error (.database e), s') := by
  rw [carryOut_bind, Operation.statement, carryOut_bind, carryOut_query]
  rcases st.run reply.time s with ⟨_ | _, s'⟩ <;> rfl

theorem Reply.carryOut_list (reply : Reply) (sound : s.Sound) (q : Query) :
    reply.carryOut (list q false) s = (.ok (s.list q), s) := by
  have stamped : ∀ r ∈ s.list q, r.Stamped := fun r hr =>
    sound.stamped r (Query.mem_of_mem_page hr)
  have handed : Statement.run reply.time s (.list q) = (.ok (s.list q), s) := by
    rw [Statement.run, Request.mapM_handOut stamped]
  rw [list, Reply.carryOut_statement, handed]
  rfl

theorem Reply.carryOut_count (reply : Reply) (q : Query) (s : Store) :
    reply.carryOut (count q) s = (.ok (s.count q), s) := rfl

namespace Floor

variable {admits : Floor → Order → Prop} {f : Floor}

theorem list_and_count (reached : Reached admits f) (reply : Reply) (q : Query) :
    ∃ rows : List Request,
      (∀ r, r ∈ rows ↔ r ∈ f.store.rows ∧ q.Admits r) ∧
      rows.Nodup ∧
      rows.Pairwise q.sort.Ahead ∧
      (∀ page pageSize, (∀ size ∈ pageSize, size ≤ 0) →
        reply.carryOut (list { q with page, pageSize } false) f.store = (.ok rows, f.store)) ∧
      (∀ page pageSize, ∃ shown, shown.Sublist rows ∧
        reply.carryOut (list { q with page, pageSize } false) f.store = (.ok shown, f.store)) ∧
      ∀ page pageSize sort,
        reply.carryOut (count { q with page, pageSize, sort }) f.store =
          (.ok rows.length, f.store) := by
  have sound := reached.coherent.sound
  refine ⟨q.sorted f.store.rows, fun r => Query.mem_sorted, sound.sorted_nodup q,
    reached.stocked.sorted_ahead sound q, ?_, ?_, ?_⟩
  · intro page pageSize none
    rw [reply.carryOut_list sound, Store.list, Query.cutPage_of_no_size none]
    rfl
  · intro page pageSize
    exact ⟨_, Query.cutPage_sublist _ _, reply.carryOut_list sound _⟩
  · intro page pageSize sort
    rw [reply.carryOut_count, Store.count_eq_length, Query.length_sorted]

/-- Of three requests one was deleted, and the fragment is found in the names of the others. -/
theorem list_and_count_fragment :
    let reply : Reply := ⟨⟨⟨2026, 6, 1⟩, 12, 0, 0, 0⟩, {}, 0, fun _ => .error (.failed "down")⟩
    let q : Query := { nameContains := some "ALP", sort := .nameDesc }
    ∃ f, Reached (fun _ _ => True) f ∧
      f.store.rows.map (·.name) = ["alpha", "alp#2", "alpine"] ∧
      ∃ rows, reply.carryOut (list q false) f.store = (.ok rows, f.store) ∧ rows.length = 2 ∧
        (∀ r ∈ rows, r.name ≠ "alp#2") ∧ rows.Pairwise (SortOrder.Ahead .nameDesc) := by
  intro reply q
  let moves : List Move := [.order (.create ⟨1, "ann", "alpha"⟩), .answer 0,
    .order (.create ⟨2, "bob", "alp"⟩), .answer 1, .order (.create ⟨1, "ann", "alpine"⟩), .answer 2,
    .order (.delete 2), .answer 3]
  have played : (play? (fun _ _ => True) reply moves {}).map
      (fun f => (f.store.rows.map (·.name), f.store.count q,
        f.store.rows.all fun r => !q.selects r || r.name != "alp#2")) =
        some (["alpha", "alp#2", "alpine"], 2, true) := by
    decide +kernel
  obtain ⟨f, runs, shown⟩ := Option.map_eq_some_iff.mp played
  simp only [Prod.mk.injEq] at shown
  obtain ⟨names, counted, apart⟩ := shown
  obtain ⟨rows, members, -, ahead, listed, -, count⟩ := list_and_count (runs_of_play? runs) reply q
  have length : rows.length = 2 := by
    have answered := count none none .nameDesc
    rw [reply.carryOut_count] at answered
    exact (Except.ok.inj (congrArg Prod.fst answered)).symm.trans counted
  refine ⟨f, runs_of_play? runs, names, rows, listed none none (by simp), length, ?_, ahead⟩
  intro r hr
  obtain ⟨member, admitted⟩ := (members r).mp hr
  simpa [Query.selects_iff.mpr admitted] using List.all_eq_true.mp apart r member

end Floor
end ProjectDesk.Workflow
