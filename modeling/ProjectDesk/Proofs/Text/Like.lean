import Mathlib.Data.List.Forall2
import Mathlib.Data.List.Infix
import Mathlib.Data.List.TakeWhile
import ProjectDesk.Text.Like

/-!
What the patterns say that are made from a fragment. Everything in the fragment stands for itself,
the characters that mean something in a pattern included, so a text matches exactly if it has the
fragment somewhere, in either case of the letters. Where neither has a NUL in it, that is to say
that the fragment, with small letters, is a part of the text, with small letters, if U+FFFE and
U+FFFF are taken for U+FFFD in both of them.
-/

namespace ProjectDesk.Text

variable {cs rest : List Char} {items : List PatternItem}

/-- The fragment is found in the text, in either case of the letters A to Z. Both end at a NUL, and
behind a fragment with a NUL nothing may follow. -/
def Holds (text fragment : String) : Prop :=
  ∃ before inside after, upToNul text.toList = before ++ (inside ++ after) ∧
    List.Forall₂ (fun a b => sameLetter a b = true) (upToNul fragment.toList) inside ∧
    ('\x00' ∈ fragment.toList → after = [])

theorem escapeLike_cons (c : Char) (cs : List Char) :
    escapeLike (c :: cs) =
      (if c = '%' || c = '_' || c = '\\' then ['\\', c] else [c]) ++ escapeLike cs :=
  List.flatMap_cons

theorem upToNul_cons {c : Char} (h : c ≠ '\x00') : upToNul (c :: cs) = c :: upToNul cs :=
  List.takeWhile_cons_of_pos (bne_iff_ne.mpr h)

theorem upToNul_escapeLike_append (cs rest : List Char) :
    upToNul (escapeLike cs ++ rest) =
      escapeLike (upToNul cs) ++ if '\x00' ∈ cs then [] else upToNul rest := by
  induction cs with
  | nil => rfl
  | cons c cs ih =>
      by_cases ends : c = '\x00'
      · subst ends
        simp [escapeLike, upToNul]
      · have others : ('\x00' ∈ c :: cs) ↔ '\x00' ∈ cs := by simp [Ne.symm ends]
        simp only [others, upToNul_cons ends, escapeLike_cons, List.append_assoc, ← ih]
        split
        · exact (upToNul_cons (by decide)).trans (congrArg _ (upToNul_cons ends))
        · exact upToNul_cons ends

theorem readPattern_escapeLike_append (cs rest : List Char) :
    readPattern (escapeLike cs ++ rest) =
      (readPattern rest).map fun items => cs.map .exactly ++ items := by
  induction cs with
  | nil => simp [escapeLike]
  | cons c cs ih =>
      rw [escapeLike_cons, List.append_assoc]
      split
      · rw [List.cons_append, List.singleton_append, readPattern, ih, Option.map_map]
        rfl
      · rename_i plain
        simp only [Bool.or_eq_true, decide_eq_true_eq, not_or] at plain
        rw [List.singleton_append, readPattern, ih, Option.map_map]
        · rfl
        all_goals grind

theorem someTail_iff {test : List Char → Bool} :
    someTail test cs = true ↔ ∃ before after, cs = before ++ after ∧ test after = true := by
  induction cs with
  | nil => simp [someTail]
  | cons c cs ih =>
      rw [someTail, Bool.or_eq_true, ih]
      constructor
      · rintro (whole | ⟨before, after, rfl, passes⟩)
        · exact ⟨[], c :: cs, rfl, whole⟩
        · exact ⟨c :: before, after, rfl, passes⟩
      · rintro ⟨before, after, split, passes⟩
        cases before with
        | nil => exact .inl (split ▸ passes)
        | cons c' before =>
            obtain ⟨rfl, rfl⟩ := List.cons.inj split
            exact .inr ⟨before, after, rfl, passes⟩

theorem matchItems_exactly_append (fragment : List Char) :
    matchItems (fragment.map .exactly ++ items) cs = true ↔
      ∃ inside after, cs = inside ++ after ∧
        List.Forall₂ (fun a b => sameLetter a b = true) fragment inside ∧
        matchItems items after = true := by
  induction fragment generalizing cs with
  | nil => simp
  | cons a fragment ih =>
      rw [List.map_cons, List.cons_append]
      cases cs with
      | nil =>
          simp only [matchItems, Bool.false_eq_true, false_iff]
          rintro ⟨inside, after, split, same, -⟩
          cases same
          cases split
      | cons b cs =>
          rw [matchItems, Bool.and_eq_true, ih]
          constructor
          · rintro ⟨first, inside, after, rfl, same, passes⟩
            exact ⟨b :: inside, after, rfl, .cons first same, passes⟩
          · rintro ⟨inside, after, split, same, passes⟩
            cases same with
            | cons first same =>
                obtain ⟨rfl, rfl⟩ := List.cons.inj split
                exact ⟨first, _, after, rfl, same, passes⟩

theorem like_holding (text fragment : String) :
    like text (holding fragment) = true ↔ Holds text fragment := by
  have pattern : upToNul (holding fragment).toList =
      '%' :: (escapeLike (upToNul fragment.toList) ++
        if '\x00' ∈ fragment.toList then [] else ['%']) := by
    rw [holding, String.toList_ofList, List.cons_append]
    exact congrArg _ (upToNul_escapeLike_append _ _)
  have read : readPattern (upToNul (holding fragment).toList) =
      some (.anyRun :: ((upToNul fragment.toList).map .exactly ++
        if '\x00' ∈ fragment.toList then [] else [.anyRun])) := by
    rw [pattern, readPattern, readPattern_escapeLike_append]
    split <;> rfl
  rw [like, read]
  simp only [matchItems, someTail_iff, matchItems_exactly_append]
  constructor
  · rintro ⟨before, _, split, inside, after, rfl, same, last⟩
    refine ⟨before, inside, after, split, same, fun ends => ?_⟩
    rw [if_pos ends] at last
    exact List.isEmpty_iff.mp last
  · rintro ⟨before, inside, after, split, same, last⟩
    refine ⟨before, _, split, inside, after, rfl, same, ?_⟩
    split
    · rename_i ends
      rw [last ends]
      rfl
    · exact someTail_iff.mpr ⟨after, [], (List.append_nil _).symm, rfl⟩

theorem upToNul_eq_self (h : '\x00' ∉ cs) : upToNul cs = cs := by
  refine List.takeWhile_eq_self_iff.mpr fun c hc => ?_
  exact bne_iff_ne.mpr fun same => h (same ▸ hc)

/-- What tells one character from another. -/
def folded (c : Char) : Char :=
  (asRead c).toLower

/-- Letters of either case are told apart no longer once all are small. -/
theorem forall₂_sameLetter_iff {fragment inside : List Char} :
    List.Forall₂ (fun a b => sameLetter a b = true) fragment inside ↔
      fragment.map folded = inside.map folded := by
  simp only [sameLetter, beq_iff_eq]
  rw [← List.forall₂_eq_eq_eq, List.forall₂_map_left_iff, List.forall₂_map_right_iff]
  rfl

theorem map_folded (none : '\ufffe' ∉ cs) (none' : '\uffff' ∉ cs) :
    cs.map folded = cs.map Char.toLower := by
  refine List.map_congr_left fun c hc => ?_
  have other : c ≠ '\ufffe' := fun same => none (same ▸ hc)
  have other' : c ≠ '\uffff' := fun same => none' (same ▸ hc)
  simp [folded, asRead, other, other']

theorem holds_iff_within {text fragment : String} (named : '\x00' ∉ text.toList)
    (plain : '\x00' ∉ fragment.toList) :
    Holds text fragment ↔ fragment.toList.map folded <:+: text.toList.map folded := by
  simp only [Holds, upToNul_eq_self named, upToNul_eq_self plain, forall₂_sameLetter_iff,
    plain, false_implies, and_true]
  constructor
  · rintro ⟨before, inside, after, split, same⟩
    refine ⟨before.map folded, after.map folded, ?_⟩
    rw [split, same, List.map_append, List.map_append, List.append_assoc]
  · rintro ⟨before, after, split⟩
    rw [List.append_assoc, eq_comm, List.map_eq_append_iff] at split
    obtain ⟨before, rest, parts, -, split⟩ := split
    obtain ⟨inside, after, rfl, same, -⟩ := List.map_eq_append_iff.mp split
    exact ⟨before, inside, after, parts, same.symm⟩

/-- With a NUL in the fragment, the text has to end with what is before it. -/
theorem holds_iff_ending {text fragment : String} (named : '\x00' ∉ text.toList)
    (ends : '\x00' ∈ fragment.toList) :
    Holds text fragment ↔
      (upToNul fragment.toList).map folded <:+ text.toList.map folded := by
  simp only [Holds, upToNul_eq_self named, forall₂_sameLetter_iff, ends, true_implies]
  constructor
  · rintro ⟨before, inside, _, split, same, rfl⟩
    refine ⟨before.map folded, ?_⟩
    rw [split, same, List.append_nil, List.map_append]
  · rintro ⟨before, split⟩
    obtain ⟨before, inside, parts, -, same⟩ := List.map_eq_append_iff.mp split.symm
    exact ⟨before, inside, [], by rw [List.append_nil, parts], same.symm, rfl⟩

/-- Found exactly where it stands; U+FFFE and U+FFFF count as U+FFFD where they occur. -/
theorem like_holding_iff_within {name : String} (named : '\x00' ∉ name.toList)
    (fragment : String) :
    readPattern (holding fragment).toList =
        some (.anyRun :: fragment.toList.map .exactly ++ [.anyRun]) ∧
      ('\x00' ∉ fragment.toList → (like name (holding fragment) = true ↔
        fragment.toList.map folded <:+: name.toList.map folded)) ∧
      ('\x00' ∈ fragment.toList → (like name (holding fragment) = true ↔
        (upToNul fragment.toList).map folded <:+ name.toList.map folded)) ∧
      ('\x00' ∉ fragment.toList → '\ufffe' ∉ name.toList ++ fragment.toList →
        '\uffff' ∉ name.toList ++ fragment.toList → (like name (holding fragment) = true ↔
          fragment.toList.map Char.toLower <:+: name.toList.map Char.toLower)) := by
  have within (plain : '\x00' ∉ fragment.toList) :=
    (like_holding name fragment).trans (holds_iff_within named plain)
  refine ⟨?_, within, fun ends => (like_holding name fragment).trans (holds_iff_ending named ends),
    ?_⟩
  · rw [holding, String.toList_ofList, List.cons_append, readPattern,
      readPattern_escapeLike_append]
    rfl
  · intro plain none none'
    rw [List.mem_append, not_or] at none none'
    rw [within plain, map_folded none.1 none'.1, map_folded none.2 none'.2]

/-- With marks that mean something in a pattern, one behind the other, and in another case; and with
a NUL, behind which nothing is read. -/
theorem like_holding_iff_within_marks :
    '\x00' ∉ "Rate-50%_\\".toList ∧ '\x00' ∉ "rate-500x\\".toList ∧
      '\x00' ∉ "E-50%_\\".toList ∧ like "Rate-50%_\\" (holding "E-50%_\\") = true ∧
      like "rate-500x\\" (holding "E-50%_\\") = false ∧
      '\x00' ∈ "_\\\x00x".toList ∧ like "Rate-50%_\\" (holding "_\\\x00x") = true := by
  have first : '\x00' ∉ "Rate-50%_\\".toList := by decide
  have second : '\x00' ∉ "rate-500x\\".toList := by decide
  have plain : '\x00' ∉ "E-50%_\\".toList := by decide
  have ends : '\x00' ∈ "_\\\x00x".toList := by decide
  refine ⟨first, second, plain, ?_, ?_, ends, ?_⟩
  · exact ((like_holding_iff_within first _).2.2.2 plain (by decide) (by decide)).mpr (by decide)
  · rw [Bool.eq_false_iff, ne_eq, (like_holding_iff_within second _).2.1 plain]
    decide
  · exact ((like_holding_iff_within first _).2.2.1 ends).mpr (by decide)

/-- A fragment of one noncharacter is found where another character stands. -/
theorem like_holding_noncharacter :
    '\x00' ∉ "\ufffd".toList ∧ '\x00' ∉ "\ufffe".toList ∧
      like "\ufffd" (holding "\ufffe") = true ∧
      ¬ "\ufffe".toList.map Char.toLower <:+: "\ufffd".toList.map Char.toLower := by
  decide

end ProjectDesk.Text
