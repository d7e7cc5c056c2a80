import ProjectDesk.Proofs.Store.Paging
import ProjectDesk.Proofs.Workflow.Listing

/-!
Listing page by page. Every page is asked for by itself, and the strict order of a listing is what
makes the answers parts of one list: pages one after the other give the whole of it, each request
once.
-/

namespace ProjectDesk.Workflow.Floor

variable {admits : Floor → Order → Prop} {f : Floor}

/-- A page is only spoken of where its start fits in 64 bits; `Query.window` counts on behind that,
where it no longer says what is listed. -/
theorem pages_partition (reached : Reached admits f) (q : Query) :
    ∃ rows : List Request,
      (∀ rows', rows' = rows ↔
        (∀ r, r ∈ rows' ↔ r ∈ f.store.rows ∧ q.Admits r) ∧ rows'.Pairwise q.sort.Ahead) ∧
      (∀ reply : Reply, reply.carryOut (count q) f.store = (.ok rows.length, f.store)) ∧
      (∀ (reply : Reply) page pageSize, (∀ size ∈ pageSize, size ≤ 0) →
        reply.carryOut (list { q with page, pageSize } false) f.store = (.ok rows, f.store)) ∧
      ∀ size : Nat, 0 < size → ∃ pages : Nat → List Request,
        (∀ (reply : Reply) (page : Nat), 1 ≤ page →
          Range.signed64.has ((page - 1) * size) = true →
          reply.carryOut (list { q with page := some (page : Int), pageSize := some (size : Int) }
            false) f.store = (.ok (pages page), f.store)) ∧
        (∀ (reply : Reply) page, (∀ p ∈ page, p ≤ 0) →
          reply.carryOut (list { q with page, pageSize := some (size : Int) } false) f.store =
            (.ok (pages 1), f.store)) ∧
        (List.range' 1 (Query.pageCount rows.length size)).flatMap pages = rows ∧
        (∀ page, 1 ≤ page → page < Query.pageCount rows.length size →
          (pages page).length = size) ∧
        ∀ page, Query.pageCount rows.length size < page → pages page = [] := by
  have sound := reached.coherent.sound
  refine ⟨q.sorted f.store.rows, ?_, ?_, ?_, ?_⟩
  · intro rows'
    constructor
    · rintro rfl
      exact ⟨fun r => Query.mem_sorted, reached.stocked.sorted_ahead sound q⟩
    · rintro ⟨members, ahead⟩
      exact reached.stocked.eq_sorted sound members ahead
  · intro reply
    rw [reply.carryOut_count, Store.count_eq_length]
  · intro reply page pageSize none
    rw [reply.carryOut_list sound, Store.list, Query.cutPage_of_no_size none]
    rfl
  · intro size positive
    refine ⟨Query.onPage (q.sorted f.store.rows) size, ?_, ?_, Query.flatMap_pages positive _, ?_,
      ?_⟩
    · intro reply page first _
      rw [reply.carryOut_list sound, Store.list, Query.cutPage_of_page positive first]
      rfl
    · intro reply page none
      rw [reply.carryOut_list sound, Store.list, Query.cutPage_of_no_page positive none]
      rfl
    · exact fun page => Query.length_onPage positive
    · exact fun page => Query.onPage_eq_nil positive

/-- Three requests are listed by name, two on a page. -/
theorem pages_partition_by_name :
    let reply : Reply := ⟨⟨⟨2026, 6, 1⟩, 12, 0, 0, 0⟩, {}, 0, fun _ => .error (.failed "down")⟩
    let q : Query := { sort := .nameAsc }
    let page (number : Int) : Query := { q with page := some number, pageSize := some 2 }
    ∃ f, Reached (fun _ _ => True) f ∧ f.store.rows.map (·.name) = ["gamma", "alpha", "beta"] ∧
      ∃ one two, reply.carryOut (list q false) f.store = (.ok (one ++ two), f.store) ∧
        reply.carryOut (list (page 0) false) f.store = (.ok one, f.store) ∧
        reply.carryOut (list (page 2) false) f.store = (.ok two, f.store) ∧
        reply.carryOut (list (page 3) false) f.store = (.ok [], f.store) ∧
        one.length = 2 ∧ two.length = 1 := by
  intro reply q page
  let moves : List Move := [.order (.create ⟨1, "ann", "gamma"⟩), .answer 0,
    .order (.create ⟨2, "bob", "alpha"⟩), .answer 1, .order (.create ⟨1, "ann", "beta"⟩), .answer 2]
  have played : (play? (fun _ _ => True) reply moves {}).map
      (fun f => (f.store.rows.map (·.name), f.store.count q)) =
        some (["gamma", "alpha", "beta"], 3) := by
    decide +kernel
  obtain ⟨f, runs, shown⟩ := Option.map_eq_some_iff.mp played
  simp only [Prod.mk.injEq] at shown
  obtain ⟨names, counted⟩ := shown
  obtain ⟨rows, -, count, whole, paged⟩ := pages_partition (runs_of_play? runs) q
  have three : rows.length = 3 := by
    have answered := count reply
    rw [reply.carryOut_count] at answered
    exact (Except.ok.inj (congrArg Prod.fst answered)).symm.trans counted
  obtain ⟨pages, listed, first, together, full, later⟩ := paged 2 (by decide)
  rw [three] at together full later
  have both : pages 1 ++ pages 2 = rows := by
    rw [← together]
    exact congrArg (pages 1 ++ ·) (List.append_nil _).symm
  have one : (pages 1).length = 2 := full 1 (by decide) (by decide)
  refine ⟨f, runs_of_play? runs, names, pages 1, pages 2, ?_, ?_, ?_, ?_, one, ?_⟩
  · rw [both]
    exact whole reply none none (by simp)
  · exact first reply (some 0) (by simp)
  · exact listed reply 2 (by decide) (by decide)
  · have empty := listed reply 3 (by decide) (by decide)
    rwa [later 3 (by decide)] at empty
  · have sum := congrArg List.length both
    rw [List.length_append, one, three] at sum
    exact Nat.add_left_cancel sum

end ProjectDesk.Workflow.Floor
