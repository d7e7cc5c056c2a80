import ProjectDesk.Proofs.Store.Listing

/-!
Pages of a listing. A page is a part of the one list that a query stands for, so the pages that are
asked for one by one are put together to that list again, and all of them but the last are full.
-/

namespace ProjectDesk.Query

variable {q : Query} {rows : List Request} {size page : Nat}

/-- How many pages so many rows take. -/
def pageCount (rows size : Nat) : Nat :=
  (rows + size - 1) / size

/-- The rows on a page, where pages are numbered from one. -/
def onPage (rows : List Request) (size page : Nat) : List Request :=
  (rows.drop ((page - 1) * size)).take size

theorem lt_pageCount_iff {rows : Nat} (positive : 0 < size) :
    page < pageCount rows size ↔ page * size < rows := by
  have whole : rows + size - 1 - (size - 1) = rows := by omega
  rw [pageCount, Nat.lt_div_iff_mul_lt positive, whole]

theorem le_pageCount_mul {rows : Nat} (positive : 0 < size) : rows ≤ pageCount rows size * size :=
  Nat.not_lt.mp fun more => Nat.lt_irrefl _ ((lt_pageCount_iff positive).mpr more)

theorem flatMap_onPage (rows : List Request) (size pages : Nat) :
    (List.range' 1 pages).flatMap (onPage rows size) = rows.take (pages * size) := by
  induction pages with
  | zero => simp
  | succ pages ih =>
      rw [List.range'_1_concat, List.flatMap_append, ih, Nat.succ_mul, List.take_add]
      simp [onPage]

/-- All pages together are the whole list. -/
theorem flatMap_pages (positive : 0 < size) (rows : List Request) :
    (List.range' 1 (pageCount rows.length size)).flatMap (onPage rows size) = rows := by
  rw [flatMap_onPage, List.take_of_length_le (le_pageCount_mul positive)]

theorem length_onPage (positive : 0 < size) (first : 1 ≤ page)
    (more : page < pageCount rows.length size) : (onPage rows size page).length = size := by
  have full : page * size < rows.length := (lt_pageCount_iff positive).mp more
  have split : page * size = (page - 1) * size + size := by
    rw [← Nat.succ_mul, Nat.succ_eq_add_one, Nat.sub_add_cancel first]
  rw [onPage, List.length_take, List.length_drop]
  omega

theorem onPage_eq_nil (positive : 0 < size) (late : pageCount rows.length size < page) :
    onPage rows size page = [] := by
  have passed : rows.length ≤ (page - 1) * size :=
    (le_pageCount_mul positive).trans (Nat.mul_le_mul_right size (Nat.le_sub_one_of_lt late))
  rw [onPage, List.drop_of_length_le passed, List.take_nil]

/-- The first page stands in for pages before it. -/
theorem cutPage_of_size (positive : 0 < size) (page : Option Int) (rows : List Request) :
    ({ q with page, pageSize := some (size : Int) } : Query).cutPage rows =
      onPage rows size (max (page.getD 1) 1).toNat := by
  obtain ⟨passed, number⟩ : ∃ passed : Nat, max (page.getD 1) 1 = passed + 1 :=
    ⟨(max (page.getD 1) 1 - 1).toNat, by omega⟩
  have offset : ((passed + 1 - 1 : Int) * size).toNat = passed * size := by
    rw [Int.add_sub_cancel, ← Int.natCast_mul, Int.toNat_natCast]
  have window : ({ q with page, pageSize := some (size : Int) } : Query).window =
      some (size, passed * size) := by
    simp only [Query.window, Int.natCast_pos.mpr positive, if_true, Int.toNat_natCast, number, offset]
  have same : (passed + 1 : Int).toNat = passed + 1 := rfl
  rw [cutPage, window, number, same, onPage, Nat.add_sub_cancel]

theorem cutPage_of_page (positive : 0 < size) (first : 1 ≤ page) (rows : List Request) :
    ({ q with page := some (page : Int), pageSize := some (size : Int) } : Query).cutPage rows =
      onPage rows size page := by
  rw [cutPage_of_size positive, Option.getD_some]
  congr 1
  omega

theorem cutPage_of_no_page (positive : 0 < size) {page : Option Int} (none : ∀ p ∈ page, p ≤ 0)
    (rows : List Request) :
    ({ q with page, pageSize := some (size : Int) } : Query).cutPage rows =
      onPage rows size 1 := by
  have early : page.getD 1 ≤ 1 := by
    cases page with
    | none => exact Int.le_refl 1
    | some p => exact (none p rfl).trans Int.one_nonneg
  rw [cutPage_of_size positive, Int.max_eq_right early]
  rfl

end ProjectDesk.Query
