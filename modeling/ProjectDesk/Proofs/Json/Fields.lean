import ProjectDesk.Json.Record
import ProjectDesk.Proofs.Json.Kept

/-!
Records read back from values. An object with a record's own names gives its fields as they stand,
and each plain value is what its field is read as.
-/

namespace ProjectDesk.Json

/-- The fields that a value's members are. -/
def Fields.ofMembers (ms : List (String × Value)) : Fields :=
  ⟨true, ms.map fun m => (m.1, .ofValue m.2)⟩

namespace Document

variable {names : List String} {ms : List (String × Value)}

theorem pickMembers_ofMembers (known : ∀ m ∈ ms, m.1 ∈ names) (distinct : (ms.map (·.1)).Nodup) :
    pickMembers names (ofMembers ms) = some (Fields.ofMembers ms).given := by
  induction ms with
  | nil => rfl
  | cons m ms ih =>
      obtain ⟨n, v⟩ := m
      obtain ⟨knows, others⟩ := List.forall_mem_cons.mp known
      obtain ⟨fresh, distinct⟩ := List.nodup_cons.mp distinct
      have once : ∀ v, (n, v) ∉ ms := by simpa using fresh
      simpa [ofMembers, pickMembers, ih others distinct, knows, Fields.ofMembers] using once

theorem fields?_ofValue (all : ms.map (·.1) = names) (distinct : names.Nodup) :
    (ofValue (.object ms)).fields? names = some (Fields.ofMembers ms) := by
  subst names
  have picked := pickMembers_ofMembers (fun _ => List.mem_map_of_mem) distinct
  simp [ofValue, fields?, picked, Fields.ofMembers]

@[simp] theorem get?_ofMembers (ms : List (String × Value)) (name : String) :
    (Fields.ofMembers ms).get? name = (ms.lookup name).map ofValue := by
  unfold Fields.get? Fields.ofMembers
  induction ms with
  | nil => rfl
  | cons m ms ih =>
      obtain ⟨n, v⟩ := m
      simp only [List.map_cons, List.lookup_cons, ih]
      cases name == n <;> rfl

@[simp] theorem string?_ofValue (s : String) : (ofValue (.string s)).string? = some s := by
  simp [ofValue, string?]

@[simp] theorem bool?_ofValue (b : Bool) : (ofValue (.bool b)).bool? = some b := by
  simp [ofValue, bool?]

theorem isKept_of_signed64 {n : Int} (small : Range.signed64.has n = true) : IsKept n := by
  unfold Range.has Range.signed64 at small
  unfold IsKept
  simp only [Bool.and_eq_true, decide_eq_true_eq] at small
  omega

theorem whole?_ofValue_of_isKept {range : Range} {n : Int} (kept : IsKept n)
    (within : range.has n = true) : (ofValue (.whole n)).whole? range = some n := by
  simp [Value.whole, ofValue, numeral_whole, whole?, number?_ofWhole kept, within]

theorem whole?_ofValue {n : Int} (small : Range.signed64.has n = true) :
    (ofValue (.whole n)).whole? .signed64 = some n :=
  whole?_ofValue_of_isKept (isKept_of_signed64 small) small

theorem natural?_ofValue {range : Range} {n : Nat} (within : range.has n = true)
    (below : range.greatest ≤ Range.unsigned64.greatest) :
    (ofValue (.whole n)).natural? range = some n := by
  have kept : IsKept n := by
    unfold Range.has at within
    unfold Range.unsigned64 at below
    unfold IsKept
    simp only [Bool.and_eq_true, decide_eq_true_eq] at within below
    omega
  simp [natural?, whole?_ofValue_of_isKept kept within]

@[simp] theorem list?_ofValue_strings (xs : List String) :
    (ofValue (.strings xs)).list? string? = some xs := by
  have all : (ofValues (xs.map .string)).mapM string? = some xs := by
    induction xs with
    | nil => rfl
    | cons x xs ih => simp [ofValues, ih]
  simpa [Value.strings, ofValue, list?] using all

@[simp] theorem nullable?_ofValue_orNull (x : Option String) :
    (ofValue (Value.orNull .string x)).nullable? string? = some x := by
  cases x with
  | none => rfl
  | some s => simp [Value.orNull, ofValue, nullable?, string?]

/-! Fields that are there. -/

theorem has_of_whole? {range : Range} {d : Document} {n : Int} (h : d.whole? range = some n) :
    range.has n = true := by
  cases d with
  | number m =>
      rw [whole?] at h
      split at h
      · split at h
        · cases h
          assumption
        · cases h
      · cases h
  | _ => cases h

theorem has_of_natural? {range : Range} {d : Document} {n : Nat} (natural : 0 ≤ range.least)
    (h : d.natural? range = some n) : range.has n = true := by
  obtain ⟨m, whole, rfl⟩ := Option.map_eq_some_iff.mp h
  have within := has_of_whole? whole
  unfold Range.has at within ⊢
  simp only [Bool.and_eq_true, decide_eq_true_eq] at within ⊢
  omega

theorem wrapNothing_iff {ds : List Document} :
    wrapNothing ds = true ↔ ∀ d ∈ ds, d.wrapsNothing = true := by
  induction ds with
  | nil => simp [wrapNothing]
  | cons d ds ih => simp [wrapNothing, ih]

theorem membersWrapNothing_iff {members : List (List StringItem × Document)} :
    membersWrapNothing members = true ↔ ∀ m ∈ members, m.2.wrapsNothing = true := by
  induction members with
  | nil => simp [membersWrapNothing]
  | cons m ms ih => rw [membersWrapNothing, Bool.and_eq_true, ih, List.forall_mem_cons]

theorem mem_of_pickMembers {members : List (List StringItem × Document)}
    {picked : List (String × Document)} (h : pickMembers names members = some picked)
    {f : String × Document} (hf : f ∈ picked) : ∃ m ∈ members, m.2 = f.2 := by
  induction members generalizing picked with
  | nil =>
      cases h
      cases hf
  | cons m ms ih =>
      simp only [pickMembers, Option.bind_eq_bind, Option.bind_eq_some_iff] at h
      obtain ⟨name, -, others, rest, chosen⟩ := h
      have later (hf : f ∈ others) : ∃ m' ∈ m :: ms, m'.2 = f.2 :=
        (ih rest hf).imp fun _ => .imp_left (.tail _)
      split at chosen
      · cases chosen
        exact later hf
      · split at chosen
        · cases chosen
        · cases chosen
          rcases List.mem_cons.mp hf with rfl | hf
          · exact ⟨m, .head _, rfl⟩
          · exact later hf

/-- Nor is there a wrapper in a field. -/
theorem wrapsNothing_field {d inner : Document} {fields : Fields} {name : String}
    (plain : d.wrapsNothing = true) (h : d.fields? names = some fields)
    (there : fields.get? name = some inner) : inner.wrapsNothing = true := by
  have given : (name, inner) ∈ fields.given := by
    obtain ⟨before, after, same, -⟩ := List.lookup_eq_some_iff.mp there
    simp [same]
  cases d with
  | array items =>
      rw [fields?] at h
      split at h
      · cases h
        exact wrapNothing_iff.mp plain inner (List.of_mem_zip given).2
      · cases h
  | object members =>
      obtain ⟨picked, pick, rfl⟩ := Option.map_eq_some_iff.mp h
      obtain ⟨m, hm, same⟩ := mem_of_pickMembers pick given
      obtain rfl : m.2 = inner := same
      exact membersWrapNothing_iff.mp (Bool.and_eq_true_iff.mp plain).2 m hm
  | _ => cases h

end Document

theorem Fields.exists_of_required {fields : Fields} {name : String} {decode : Document → Option α}
    {x : α} (h : fields.required name decode = some x) :
    ∃ d, fields.get? name = some d ∧ decode d = some x := by
  rw [required] at h
  split at h
  · exact ⟨_, ‹_›, h⟩
  · cases h

/-- A field has its default or what was read for it. -/
theorem Fields.of_withDefault {fields : Fields} {name : String} {decode : Document → Option α}
    {default x : α} {P : α → Prop} (h : fields.withDefault name decode default = some x)
    (absent : P default) (given : ∀ d, decode d = some x → P x) : P x := by
  rw [withDefault] at h
  split at h
  · exact given _ h
  · cases h
    exact absent

end ProjectDesk.Json
