import Mathlib.Data.List.Forall2
import ProjectDesk.Proofs.Workflow.LastWord

/-!
What was published, in the order of those who had it published: it is one decision for each who was
told that it was written, and nothing for the others.
-/

namespace ProjectDesk

/-- A list taken apart by a key. -/
theorem filter_range_perm {α : Type} (key : α → Nat) (xs : List α) (n : Nat) :
    (xs.filter (key · < n)).Perm ((List.range n).flatMap fun i => xs.filter (key · == i)) := by
  induction n with
  | zero => simp
  | succ n ih =>
      have split := List.filter_append_perm (key · < n) (xs.filter (key · < n + 1))
      have below : (xs.filter (key · < n + 1)).filter (key · < n) = xs.filter (key · < n) := by
        rw [List.filter_filter]
        refine List.filter_congr fun x _ => Bool.eq_iff_iff.mpr ?_
        simp
        omega
      have last : (xs.filter (key · < n + 1)).filter (fun x => !decide (key x < n)) =
          xs.filter (key · == n) := by
        rw [List.filter_filter]
        refine List.filter_congr fun x _ => Bool.eq_iff_iff.mpr ?_
        simp
        omega
      rw [below, last] at split
      rw [List.range_succ, List.flatMap_append, List.flatMap_singleton]
      exact split.symm.trans (ih.append_right _)

namespace Workflow

/-- The ruling that was carried out, if it was one and the caller was told so. -/
def Undertaking.granted? : Undertaking → Option Ruling
  | ⟨.approve operator r, .done (.ok ())⟩ => some ⟨operator, r, .approved⟩
  | ⟨.reject operator r, .done (.ok ())⟩ => some ⟨operator, r, .rejected⟩
  | _ => none

namespace Floor

variable {f : Floor}

/-- In the order of the undertakings. -/
def granted (f : Floor) : List Ruling :=
  f.undertakings.filterMap Undertaking.granted?

theorem returned_of_granted? {i : Nat} {u : Undertaking} {x : Ruling}
    (hu : f.undertakings[i]? = some u) (h : u.granted? = some x) : f.Returned i x (.ok ()) := by
  unfold Undertaking.granted? at h
  split at h
  · cases h
    exact .approve hu
  · cases h
    exact .reject hu
  · cases h

theorem granted?_of_returned {i : Nat} {u : Undertaking} {x : Ruling}
    (hu : f.undertakings[i]? = some u) (h : f.Returned i x (.ok ())) : u.granted? = some x := by
  cases h with
  | approve h | reject h =>
      cases hu.symm.trans h
      rfl

/-- What somebody has published is the decision, if it was granted, and nothing else. -/
theorem Coherent.published_of (coherent : f.Coherent) {i : Nat} {u : Undertaking}
    (hu : f.undertakings[i]? = some u) :
    List.Forall₂ (fun x o => ∃ now, o = x.announcement.occasion x.operator now) u.granted?.toList
      ((f.turns.filter (·.asker == i)).filterMap Turn.published?) := by
  cases granted : u.granted? with
  | some x =>
      obtain ⟨now, published⟩ := (returned_of_granted? hu granted).published coherent
      rw [published]
      exact .cons ⟨now, rfl⟩ .nil
  | none =>
      have silent : (f.turns.filter (·.asker == i)).filterMap Turn.published? = [] := by
        refine List.filterMap_eq_nil_iff.mpr fun t ht => ?_
        obtain ⟨member, same⟩ := List.mem_filter.mp ht
        refine Option.eq_none_iff_forall_ne_some.mpr fun o published => ?_
        obtain ⟨⟨operator, a⟩, said, -⟩ := Option.map_eq_some_iff.mp published
        obtain ⟨x, won, -⟩ := coherent.granted_of_announcement member said
        rw [beq_iff_eq.mp same] at won
        rw [granted?_of_returned hu won] at granted
        cases granted
      rw [silent]
      exact .nil

theorem Coherent.published_granted (coherent : f.Coherent) :
    ∃ occasions, (f.turns.filterMap Turn.published?).Perm occasions ∧
      List.Forall₂ (fun x o => ∃ now, o = x.announcement.occasion x.operator now) f.granted
        occasions := by
  have everybody : f.turns.filter (·.asker < f.undertakings.length) = f.turns :=
    List.filter_eq_self.mpr fun t ht => by simpa using coherent.asked t ht
  have parted := (filter_range_perm Turn.asker f.turns f.undertakings.length).filterMap
    Turn.published?
  rw [everybody, List.filterMap_flatMap] at parted
  refine ⟨_, parted, ?_⟩
  -- Undertaking by undertaking, each with what it published.
  have each (n : Nat) (inRange : n ≤ f.undertakings.length) :
      List.Forall₂ (fun x o => ∃ now, o = x.announcement.occasion x.operator now)
        ((f.undertakings.take n).filterMap Undertaking.granted?)
        ((List.range n).flatMap fun i =>
          (f.turns.filter (·.asker == i)).filterMap Turn.published?) := by
    induction n with
    | zero => exact .nil
    | succ n ih =>
        have first := ih (Nat.le_of_succ_le inRange)
        have last := coherent.published_of (List.getElem?_eq_getElem inRange)
        rw [List.take_succ_eq_append_getElem inRange, List.filterMap_append,
          List.range_succ, List.flatMap_append, List.flatMap_singleton]
        refine List.rel_append first ?_
        cases granted : f.undertakings[n].granted? <;> simpa [granted] using last
  simpa [granted] using each _ (Nat.le_refl _)

end Floor
end Workflow
end ProjectDesk
