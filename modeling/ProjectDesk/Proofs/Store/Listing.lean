import Mathlib.Data.List.Basic
import ProjectDesk.Proofs.Store.Origin
import ProjectDesk.Proofs.Store.Soundness
import ProjectDesk.Proofs.Text.Bytes
import ProjectDesk.Proofs.Text.Like

/-!
What a listing is: the requests that all filters of a query admit, one before the other in the order
of its sort. Two live requests have neither the id nor the name in common, so in every sort one of
them stands strictly before the other.
-/

namespace ProjectDesk

variable {q : Query} {r a b c : Request} {s : Store} {made : List Origin} {sort : SortOrder}

/-- All filters that are given hold together, and the request is live. -/
structure Query.Admits (q : Query) (r : Request) : Prop where
  live : r.deleted = false
  name : ∀ name ∈ q.name, r.name = name
  fragment : ∀ fragment ∈ q.nameContains, Text.Holds r.name fragment
  names : q.names ≠ [] → r.name ∈ q.names
  ownerId : ∀ ownerId ∈ q.ownerId, r.ownerId = ownerId
  ownerName : ∀ ownerName ∈ q.ownerName, r.ownerName = ownerName
  status : ∀ status ∈ q.status, r.status = status

/-- Made earlier, as the times are kept, or at the same time with the smaller id. -/
def Request.MadeAhead (a b : Request) : Prop :=
  Text.bytes a.createdAt.text < Text.bytes b.createdAt.text ∨
    a.createdAt.text = b.createdAt.text ∧ a.id < b.id

/-- Where the sort has the first request strictly before the second. -/
def SortOrder.Ahead : SortOrder → Request → Request → Prop
  | .createdAtAsc, a, b => a.MadeAhead b
  | .createdAtDesc, a, b => b.MadeAhead a
  | .nameAsc, a, b => Text.bytes a.name < Text.bytes b.name
  | .nameDesc, a, b => Text.bytes b.name < Text.bytes a.name

namespace Query

theorem agrees_iff {α : Type} [DecidableEq α] {wanted : Option α} {value : α} :
    agrees wanted value = true ↔ ∀ w ∈ wanted, value = w := by
  cases wanted with
  | none => simp [agrees]
  | some w => simp [agrees, eq_comm]

theorem nameHolds_iff {fragment : Option String} {name : String} :
    nameHolds fragment name = true ↔ ∀ f ∈ fragment, Text.Holds name f := by
  cases fragment with
  | none => simp [nameHolds]
  | some f => simp [nameHolds, Text.like_holding]

theorem selects_iff : q.selects r = true ↔ q.Admits r := by
  have named : (q.names.isEmpty || q.names.contains r.name) = true ↔
      (q.names ≠ [] → r.name ∈ q.names) := by
    rw [Bool.or_eq_true, List.isEmpty_iff, List.contains_iff_mem, or_iff_not_imp_left]
  simp only [selects, Bool.and_eq_true, Bool.not_eq_true', agrees_iff, nameHolds_iff, named]
  constructor
  · rintro ⟨⟨⟨⟨⟨⟨live, name⟩, fragment⟩, names⟩, ownerId⟩, ownerName⟩, status⟩
    exact ⟨live, name, fragment, names, ownerId, ownerName, status⟩
  · rintro ⟨live, name, fragment, names, ownerId, ownerName, status⟩
    exact ⟨⟨⟨⟨⟨⟨live, name⟩, fragment⟩, names⟩, ownerId⟩, ownerName⟩, status⟩

theorem mem_sorted {rows : List Request} : r ∈ q.sorted rows ↔ r ∈ rows ∧ q.Admits r := by
  rw [sorted, List.mem_mergeSort, List.mem_filter, selects_iff]

/-- Neither the sort nor the pages have a say in how many there are. -/
theorem length_sorted (q : Query) (page pageSize : Option Int) (sort : SortOrder)
    (rows : List Request) :
    (({ q with page, pageSize, sort } : Query).sorted rows).length = (q.sorted rows).length := by
  rw [sorted, sorted, List.length_mergeSort, List.length_mergeSort]
  rfl

/-- Without a size that is positive there are no pages. -/
theorem cutPage_of_no_size (none : ∀ size ∈ q.pageSize, size ≤ 0) (rows : List Request) :
    q.cutPage rows = rows := by
  have whole : q.window = .none := by
    unfold window
    split
    · rfl
    · rename_i size given
      exact if_neg (Int.not_lt.mpr (none size given))
  rw [cutPage, whole]

theorem cutPage_sublist (q : Query) (rows : List Request) : (q.cutPage rows).Sublist rows := by
  unfold cutPage
  split
  · exact .refl rows
  · exact (List.take_sublist _ _).trans (List.drop_sublist _ _)

end Query

namespace SortOrder

theorem createdBefore_iff :
    createdBefore a b = true ↔
      a.createdAt.text < b.createdAt.text ∨ a.createdAt.text = b.createdAt.text ∧ a.id ≤ b.id := by
  unfold createdBefore
  split
  · rename_i same
    simp [same]
  · rename_i apart
    simp [apart, lt_iff_le_and_ne]

theorem createdBefore_trans (ab : createdBefore a b = true) (bc : createdBefore b c = true) :
    createdBefore a c = true := by
  rw [createdBefore_iff] at ab bc ⊢
  rcases ab with ab | ⟨ab, idab⟩
  · rcases bc with bc | ⟨bc, -⟩
    · exact .inl (ab.trans bc)
    · exact .inl (bc ▸ ab)
  · rcases bc with bc | ⟨bc, idbc⟩
    · exact .inl (ab ▸ bc)
    · exact .inr ⟨ab.trans bc, idab.trans idbc⟩

theorem createdBefore_total (a b : Request) :
    createdBefore a b = true ∨ createdBefore b a = true := by
  rw [createdBefore_iff, createdBefore_iff]
  rcases lt_trichotomy a.createdAt.text b.createdAt.text with less | same | more
  · exact .inl (.inl less)
  · exact (Int.le_total a.id b.id).imp (fun h => .inr ⟨same, h⟩) fun h => .inr ⟨same.symm, h⟩
  · exact .inr (.inl more)

theorem before_trans (ab : sort.before a b = true) (bc : sort.before b c = true) :
    sort.before a c = true := by
  cases sort with
  | createdAtAsc => exact createdBefore_trans ab bc
  | createdAtDesc => exact createdBefore_trans bc ab
  | nameAsc =>
      simp only [before, nameBefore, decide_eq_true_eq] at ab bc ⊢
      exact ab.trans bc
  | nameDesc =>
      simp only [before, nameBefore, decide_eq_true_eq] at ab bc ⊢
      exact bc.trans ab

theorem before_total (a b : Request) : (sort.before a b || sort.before b a) = true := by
  rw [Bool.or_eq_true]
  cases sort with
  | createdAtAsc => exact createdBefore_total a b
  | createdAtDesc => exact createdBefore_total b a
  | nameAsc =>
      simp only [before, nameBefore, decide_eq_true_eq]
      exact le_total a.name b.name
  | nameDesc =>
      simp only [before, nameBefore, decide_eq_true_eq]
      exact le_total b.name a.name

theorem madeAhead_of_before (h : createdBefore a b = true) (apart : a.id ≠ b.id) :
    a.MadeAhead b := by
  rw [createdBefore_iff] at h
  rcases h with less | ⟨same, ids⟩
  · exact .inl (Text.bytes_lt_iff.mpr less)
  · exact .inr ⟨same, lt_of_le_of_ne ids apart⟩

theorem nameAhead_of_before (h : nameBefore a b = true) (apart : a.name ≠ b.name) :
    Text.bytes a.name < Text.bytes b.name :=
  Text.bytes_lt_iff.mpr (lt_of_le_of_ne (of_decide_eq_true h) apart)

/-- Requests that are told apart by id and by name never stand level. -/
theorem ahead_of_before (h : sort.before a b = true) (ids : a.id ≠ b.id) (names : a.name ≠ b.name) :
    sort.Ahead a b := by
  cases sort with
  | createdAtAsc => exact madeAhead_of_before h ids
  | createdAtDesc => exact madeAhead_of_before h ids.symm
  | nameAsc => exact nameAhead_of_before h names
  | nameDesc => exact nameAhead_of_before h names.symm

theorem not_madeAhead (h : a.MadeAhead b) : ¬ b.MadeAhead a := by
  unfold Request.MadeAhead at h ⊢
  rw [Text.bytes_lt_iff] at h ⊢
  rintro (less | ⟨same, ids⟩)
  · rcases h with less' | ⟨same', -⟩
    · exact lt_asymm less less'
    · exact less.ne' same'
  · rcases h with less' | ⟨-, ids'⟩
    · exact less'.ne' same
    · exact lt_asymm ids ids'

theorem not_ahead (h : sort.Ahead a b) : ¬ sort.Ahead b a := by
  cases sort with
  | createdAtAsc | createdAtDesc => exact not_madeAhead h
  | nameAsc | nameDesc =>
      simp only [Ahead, Text.bytes_lt_iff] at h ⊢
      exact lt_asymm h

end SortOrder

namespace Store

theorem Sound.nodup (h : s.Sound) : s.rows.Nodup :=
  .of_map _ h.distinct

/-- Those that a query selects are told apart by id and by name. -/
theorem Stocked.selected_apart (h : s.Stocked made) (sound : s.Sound) (q : Query) :
    (s.rows.filter q.selects).Pairwise fun r r' => r.id ≠ r'.id ∧ r.name ≠ r'.name := by
  have ids : s.rows.Pairwise fun r r' => r.id ≠ r'.id := List.pairwise_map.mp sound.distinct
  rw [List.pairwise_filter]
  refine List.Pairwise.imp₂ ?_ ids h.unique
  intro r r' ids names chosen chosen'
  exact ⟨ids, names (Query.selects_iff.mp chosen).live (Query.selects_iff.mp chosen').live⟩

theorem Stocked.sorted_ahead (h : s.Stocked made) (sound : s.Sound) (q : Query) :
    (q.sorted s.rows).Pairwise q.sort.Ahead := by
  have level : (q.sorted s.rows).Pairwise fun r r' => q.sort.before r r' = true := by
    refine List.pairwise_mergeSort ?_ SortOrder.before_total _
    exact fun _ _ _ ab bc => SortOrder.before_trans ab bc
  have apart : (q.sorted s.rows).Pairwise fun r r' => r.id ≠ r'.id ∧ r.name ≠ r'.name :=
    (h.selected_apart sound q).perm (List.mergeSort_perm _ _).symm
      fun apart => ⟨apart.1.symm, apart.2.symm⟩
  refine List.Pairwise.imp₂ ?_ level apart
  intro r r' before apart
  exact SortOrder.ahead_of_before before apart.1 apart.2

theorem Sound.sorted_nodup (h : s.Sound) (q : Query) : (q.sorted s.rows).Nodup :=
  (List.mergeSort_perm _ _).nodup_iff.mpr (h.nodup.filter _)

/-- Which requests it holds, and their order, leave no choice of a listing. -/
theorem Stocked.eq_sorted (h : s.Stocked made) (sound : s.Sound) {rows : List Request}
    (members : ∀ r, r ∈ rows ↔ r ∈ s.rows ∧ q.Admits r) (ahead : rows.Pairwise q.sort.Ahead) :
    rows = q.sorted s.rows := by
  have nodup : rows.Nodup := by
    refine ahead.imp ?_
    rintro r _ ahead rfl
    exact SortOrder.not_ahead ahead ahead
  have perm : rows.Perm (q.sorted s.rows) :=
    (List.perm_ext_iff_of_nodup nodup (sound.sorted_nodup q)).mpr fun r =>
      (members r).trans Query.mem_sorted.symm
  refine perm.eq_of_pairwise ?_ ahead (h.sorted_ahead sound q)
  intro r r' _ _ before after
  exact absurd after (SortOrder.not_ahead before)

theorem count_eq_length (q : Query) (s : Store) : s.count q = (q.sorted s.rows).length := by
  rw [count, List.countP_eq_length_filter, Query.sorted, List.length_mergeSort]

end Store
end ProjectDesk
