import Mathlib.Computability.Language
import ProjectDesk.Workflow.Lifecycle

/-!
The grammar of names. Looked at character by character, a name begins and ends with a letter or
digit and has no two joints side by side; taken as a whole, it is runs of letters and digits with
single joints between them. Both say which texts are accepted.
-/

namespace ProjectDesk

open Computability

variable {c : Char} {cs : List Char} {p : Char → Bool} {due : Bool}

theorem isNameLetter_iff :
    isNameLetter c = true ↔ c ∈ "abcdefghijklmnopqrstuvwxyz0123456789".toList := by
  constructor
  · intro letter
    have listed : ((List.range' 97 26 ++ List.range' 48 10).all fun n =>
        "abcdefghijklmnopqrstuvwxyz0123456789".toList.contains (Char.ofNat n)) = true := by
      decide
    have code : c.toNat ∈ List.range' 97 26 ++ List.range' 48 10 := by
      simp only [isNameLetter, Bool.or_eq_true, Bool.and_eq_true, decide_eq_true_eq, Char.le_def,
        UInt32.le_iff_toNat_le] at letter
      simp only [List.mem_append, List.mem_range'_1, Char.toNat]
      exact letter.imp (fun h => ⟨h.1, Nat.lt_succ_of_le h.2⟩) fun h => ⟨h.1, Nat.lt_succ_of_le h.2⟩
    have found := List.all_eq_true.mp listed _ code
    rwa [Char.ofNat_toNat, List.contains_iff_mem] at found
  · have letters : "abcdefghijklmnopqrstuvwxyz0123456789".toList.all isNameLetter = true := by
      decide
    exact List.all_eq_true.mp letters c

theorem isNameJoint_iff : isNameJoint c = true ↔ c ∈ "._-".toList := by
  simp [isNameJoint, or_assoc]
theorem not_isNameJoint (letter : isNameLetter c = true) : isNameJoint c = false := by
  refine Bool.eq_false_iff.mpr fun joint => ?_
  simp only [isNameJoint, Bool.or_eq_true, beq_iff_eq] at joint
  rcases joint with (rfl | rfl) | rfl <;> exact absurd letter (by decide)

theorem nameGoesOn_letter (due : Bool) (letter : isNameLetter c = true) :
    nameGoesOn due (c :: cs) = nameGoesOn false cs := by
  rw [nameGoesOn, if_pos letter]

theorem nameGoesOn_joint (due : Bool) (other : ¬ isNameLetter c = true) :
    nameGoesOn due (c :: cs) = true ↔
      due = false ∧ isNameJoint c = true ∧ nameGoesOn true cs = true := by
  rw [nameGoesOn, if_neg other]
  simp [and_assoc]

/-! As a whole. -/

/-- The texts of one character of a class. -/
def oneOf (p : Char → Bool) : Language Char :=
  {cs | ∃ c, p c = true ∧ cs = [c]}

/-- One letter or digit, or more. -/
def nameRun : Language Char :=
  oneOf isNameLetter * (oneOf isNameLetter)∗

/-- Runs with single joints between them. -/
def nameLanguage : Language Char :=
  nameRun * (oneOf isNameJoint * nameRun)∗

/-- What may follow a letter or digit in a name. -/
def nameRest : Language Char :=
  (oneOf isNameLetter)∗ * (oneOf isNameJoint * nameRun)∗

theorem cons_mem_oneOf_mul {l : Language Char} :
    c :: cs ∈ oneOf p * l ↔ p c = true ∧ cs ∈ l := by
  rw [Language.mem_mul]
  constructor
  · rintro ⟨_, ⟨d, hd, rfl⟩, rest, hrest, same⟩
    obtain ⟨rfl, rfl⟩ := List.cons.inj same
    exact ⟨hd, hrest⟩
  · rintro ⟨hc, hcs⟩
    exact ⟨[c], ⟨c, hc, rfl⟩, cs, hcs, rfl⟩

theorem nil_notMem_oneOf_mul {l : Language Char} : [] ∉ oneOf p * l := by
  rw [Language.mem_mul]
  rintro ⟨_, ⟨d, -, rfl⟩, rest, -, same⟩
  cases same

theorem nameLanguage_eq : nameLanguage = oneOf isNameLetter * nameRest :=
  mul_assoc _ _ _

/-- The name ends, or a joint or a letter comes next. -/
theorem nameRest_eq :
    nameRest = 1 + oneOf isNameJoint * nameLanguage + oneOf isNameLetter * nameRest := by
  have runs : 1 + oneOf isNameJoint * nameLanguage = (oneOf isNameJoint * nameRun)∗ := by
    rw [nameLanguage, ← mul_assoc, Language.one_add_self_mul_kstar_eq_kstar]
  have letters : 1 + oneOf isNameLetter * (oneOf isNameLetter)∗ = (oneOf isNameLetter)∗ :=
    Language.one_add_self_mul_kstar_eq_kstar _
  calc nameRest
      = (1 + oneOf isNameLetter * (oneOf isNameLetter)∗) * (oneOf isNameJoint * nameRun)∗ := by
        rw [letters, nameRest]
    _ = (oneOf isNameJoint * nameRun)∗ + oneOf isNameLetter * nameRest := by
        rw [add_mul, one_mul, mul_assoc, nameRest]
    _ = 1 + oneOf isNameJoint * nameLanguage + oneOf isNameLetter * nameRest := by rw [runs]

theorem nil_mem_nameRest : [] ∈ nameRest := by
  rw [nameRest_eq]
  exact .inl (.inl rfl)

theorem cons_mem_nameRest : c :: cs ∈ nameRest ↔
    (isNameJoint c = true ∧ cs ∈ nameLanguage) ∨ (isNameLetter c = true ∧ cs ∈ nameRest) := by
  nth_rewrite 1 [nameRest_eq]
  rw [Language.mem_add, Language.mem_add, cons_mem_oneOf_mul, cons_mem_oneOf_mul,
    Language.mem_one, or_iff_right (List.cons_ne_nil c cs)]

/-- Where a letter is due, what goes on is a name; otherwise it may also be the end of one. -/
theorem nameGoesOn_iff_mem :
    nameGoesOn due cs = true ↔ cs ∈ if due then nameLanguage else nameRest := by
  induction cs generalizing due with
  | nil =>
      cases due with
      | true => simp [nameGoesOn, nameLanguage_eq, nil_notMem_oneOf_mul]
      | false => simp [nameGoesOn, nil_mem_nameRest]
  | cons c cs ih =>
      by_cases letter : isNameLetter c = true
      · rw [nameGoesOn_letter due letter, ih]
        cases due with
        | true => simp [nameLanguage_eq, cons_mem_oneOf_mul, letter]
        | false => simp [cons_mem_nameRest, letter, not_isNameJoint letter]
      · rw [nameGoesOn_joint due letter, ih]
        cases due with
        | true => simp [nameLanguage_eq, cons_mem_oneOf_mul, letter]
        | false => simp [cons_mem_nameRest, letter]

/-! Character by character. -/

/-- Letters, digits and joints; the last is no joint, and neither are two in a row. -/
structure Joined (cs : List Char) : Prop where
  allowed : ∀ c ∈ cs, isNameLetter c = true ∨ isNameJoint c = true
  last : ∀ c ∈ cs.getLast?, isNameLetter c = true
  apart : cs.IsChain fun c d => ¬ (isNameJoint c = true ∧ isNameJoint d = true)

theorem joined_cons_cons {c d : Char} {cs : List Char} :
    Joined (c :: d :: cs) ↔ (isNameLetter c = true ∨ isNameJoint c = true) ∧
      ¬ (isNameJoint c = true ∧ isNameJoint d = true) ∧ Joined (d :: cs) := by
  constructor
  · rintro ⟨allowed, last, apart⟩
    obtain ⟨own, others⟩ := List.forall_mem_cons.mp allowed
    rw [List.getLast?_cons_cons] at last
    obtain ⟨here, later⟩ := List.isChain_cons_cons.mp apart
    exact ⟨own, here, others, last, later⟩
  · rintro ⟨own, here, others, last, later⟩
    refine ⟨List.forall_mem_cons.mpr ⟨own, others⟩, ?_, List.isChain_cons_cons.mpr ⟨here, later⟩⟩
    rwa [List.getLast?_cons_cons]

theorem joined_nil : Joined [] := ⟨nofun, nofun, .nil⟩

theorem joined_singleton : Joined [c] ↔ isNameLetter c = true := by
  refine ⟨fun h => h.last c rfl, fun letter => ⟨?_, ?_, .singleton c⟩⟩
  · simp [letter]
  · simp [letter]

theorem joined_letter (letter : isNameLetter c = true) : Joined (c :: cs) ↔ Joined cs := by
  cases cs with
  | nil => simp [joined_singleton, joined_nil, letter]
  | cons d cs => simp [joined_cons_cons, letter, not_isNameJoint letter]

/-- Behind a joint a letter or digit has to come. -/
theorem joined_joint (other : ¬ isNameLetter c = true) :
    Joined (c :: cs) ↔
      isNameJoint c = true ∧ Joined cs ∧ ∃ d ∈ cs.head?, isNameLetter d = true := by
  cases cs with
  | nil => simp [joined_singleton, other]
  | cons d cs =>
      rw [joined_cons_cons, or_iff_right other]
      have behind (joined : Joined (d :: cs)) :
          isNameJoint d = false ↔ isNameLetter d = true := by
        refine ⟨fun no => (joined.allowed d (.head _)).resolve_right ?_, not_isNameJoint⟩
        rw [no]
        exact Bool.false_ne_true
      constructor
      · rintro ⟨joint, apart, joined⟩
        rw [not_and, Bool.not_eq_true] at apart
        exact ⟨joint, joined, d, rfl, (behind joined).mp (apart joint)⟩
      · rintro ⟨joint, joined, _, ⟨rfl⟩, letter⟩
        refine ⟨joint, fun both => ?_, joined⟩
        exact Bool.false_ne_true ((not_isNameJoint letter).symm.trans both.2)

theorem nameGoesOn_iff_joined :
    nameGoesOn due cs = true ↔
      Joined cs ∧ (due = true → ∃ c ∈ cs.head?, isNameLetter c = true) := by
  induction cs generalizing due with
  | nil => simp [nameGoesOn, joined_nil]
  | cons c cs ih =>
      by_cases letter : isNameLetter c = true
      · rw [nameGoesOn_letter due letter, ih, joined_letter letter]
        simp [letter]
      · rw [nameGoesOn_joint due letter, ih, joined_joint letter]
        cases due with
        | true => simp [letter]
        | false => simp

/-- From 1 to 255 letters, digits and joints, a letter or digit at both ends, and no two joints side
by side. -/
structure NameShape (cs : List Char) : Prop extends Joined cs where
  length : 1 ≤ cs.length ∧ cs.length ≤ 255
  first : ∀ c ∈ cs.head?, isNameLetter c = true

theorem nameShape_iff_goesOn :
    NameShape cs ↔ cs.length ≤ 255 ∧ nameGoesOn true cs = true := by
  rw [nameGoesOn_iff_joined]
  constructor
  · rintro ⟨joined, ⟨some, short⟩, first⟩
    obtain ⟨c, cs, rfl⟩ := List.exists_cons_of_length_pos some
    exact ⟨short, joined, fun _ => ⟨c, rfl, first c rfl⟩⟩
  · rintro ⟨short, joined, begins⟩
    obtain ⟨c, first, letter⟩ := begins rfl
    obtain ⟨rest, rfl⟩ := List.head?_eq_some_iff.mp first
    exact ⟨joined, ⟨Nat.le_add_left _ _, short⟩, fun d same => by cases same; exact letter⟩

instance : Decidable (NameShape cs) :=
  decidable_of_iff _ nameShape_iff_goesOn.symm

theorem nameShape_iff_mem : NameShape cs ↔ cs.length ≤ 255 ∧ cs ∈ nameLanguage := by
  rw [nameShape_iff_goesOn, nameGoesOn_iff_mem, if_pos rfl]

theorem checkName_eq_ok_iff (name : String) : checkName name = .ok () ↔ NameShape name.toList := by
  rw [nameShape_iff_goesOn]
  unfold checkName nameLimit
  dsimp only
  split
  · rename_i empty
    simp [List.isEmpty_iff.mp empty, nameGoesOn]
  · split
    · rename_i long
      simp [Nat.not_le.mpr long]
    · rename_i short
      split
      · rename_i goesOn
        simp [goesOn, Nat.le_of_not_lt short]
      · rename_i stops
        simp [stops]

/-- A fault in the name is told as one when the request is made. -/
theorem create_of_fault {draft : Draft} {fault : NameFault} (owner : 0 < draft.ownerId)
    (wrong : checkName draft.name = .error fault) :
    Workflow.create draft = throw (.validation (.name fault)) := by
  simp [Workflow.create, Workflow.checkDraft, Workflow.checkOwner, owner, wrong]

theorem checkName_grammar (name : String) :
    (∀ c, (isNameLetter c = true ↔ c ∈ "abcdefghijklmnopqrstuvwxyz0123456789".toList) ∧
        (isNameJoint c = true ↔ c ∈ "._-".toList)) ∧
      (checkName name = .ok () ↔ NameShape name.toList) ∧
      (NameShape name.toList ↔ name.toList.length ≤ 255 ∧ name.toList ∈ nameLanguage) ∧
      (¬ NameShape name.toList → ∃ fault, checkName name = .error fault ∧
        ∀ draft : Draft, draft.name = name → 0 < draft.ownerId →
          Workflow.create draft = throw (.validation (.name fault))) := by
  refine ⟨fun c => ⟨isNameLetter_iff, isNameJoint_iff⟩, checkName_eq_ok_iff name,
    nameShape_iff_mem, fun wrong => ?_⟩
  cases checked : checkName name with
  | ok _ => exact absurd ((checkName_eq_ok_iff name).mp checked) wrong
  | error fault =>
      refine ⟨fault, rfl, ?_⟩
      rintro draft rfl owner
      exact create_of_fault owner checked

/-- A line break at the end is no part of a name. -/
example : ¬ NameShape "library\n".toList := by decide

end ProjectDesk
