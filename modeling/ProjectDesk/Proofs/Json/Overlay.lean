import ProjectDesk.Proofs.Json.Fields

/-!
Records of which a part is written. What is written stands in place of what a base has, field by
field: neither the order of the members matters, nor members of other names, whatever they hold.
-/

namespace ProjectDesk.Json

/-! What plain documents mean. -/

namespace Document

/-- A string with this text, whichever of its characters are escaped. -/
def IsText (d : Document) (s : String) : Prop :=
  ∃ items, d = .string items ∧ text? items = some s

inductive IsTextOrNull : Document → Option String → Prop
  | null : IsTextOrNull .null none
  | text {d : Document} {s : String} (is : d.IsText s) : IsTextOrNull d (some s)

def IsBool (d : Document) (b : Bool) : Prop :=
  d = .bool b

/-- Without a fraction and an exponent there is one way to write a number. -/
def IsWhole (range : Range) (d : Document) (n : Int) : Prop :=
  d = .number (.ofWhole n) ∧ range.has n = true

def IsNatural (range : Range) (d : Document) (n : Nat) : Prop :=
  d.IsWhole range n

variable {d : Document}

theorem string?_of_isText {s : String} (h : d.IsText s) : d.string? = some s := by
  obtain ⟨items, rfl, text⟩ := h
  exact text

theorem nullable?_of_isTextOrNull {s : Option String} (h : d.IsTextOrNull s) :
    d.nullable? string? = some s := by
  cases h with
  | null => rfl
  | text is =>
      obtain ⟨items, rfl, text⟩ := is
      simp [nullable?, string?, text]

theorem bool?_of_isBool {b : Bool} (h : d.IsBool b) : d.bool? = some b := by
  cases h
  rfl

theorem ofValue_whole (n : Int) : ofValue (.whole n) = .number (.ofWhole n) := by
  rw [Value.whole, ofValue, numeral_whole]

theorem whole?_of_isWhole {n : Int} (h : d.IsWhole .signed64 n) : d.whole? .signed64 = some n := by
  obtain ⟨rfl, within⟩ := h
  rw [← ofValue_whole]
  exact whole?_ofValue within

theorem natural?_of_isNatural {range : Range} {n : Nat}
    (below : range.greatest ≤ Range.unsigned64.greatest) (h : d.IsNatural range n) :
    d.natural? range = some n := by
  obtain ⟨rfl, within⟩ := h
  rw [← ofValue_whole]
  exact natural?_ofValue within below

end Document

/-! Members by name. -/

/-- Members by name. Half a surrogate pair alone is no name. -/
def byName? (written : List (List StringItem × Document)) : Option (List (String × Document)) :=
  written.mapM fun (items, d) => (text? items).map (·, d)

/-- What members have under a name, in order. -/
def under (name : String) (members : List (String × Document)) : List Document :=
  (members.filter (·.1 == name)).map (·.2)

/-- The members of a record's own names, as its fields. -/
def Fields.ofNamed (names : List String) (members : List (String × Document)) : Fields :=
  ⟨true, members.filter fun m => names.contains m.1⟩

variable {names : List String} {name : String} {members : List (String × Document)}

theorem byName?_ofMembers (ms : List (String × Value)) :
    byName? (Document.ofMembers ms) = some (ms.map fun m => (m.1, .ofValue m.2)) := by
  induction ms with
  | nil => rfl
  | cons m ms ih =>
      obtain ⟨n, v⟩ := m
      rw [byName?] at ih ⊢
      simp [Document.ofMembers, ih]

theorem under_cons (m : String × Document) (members : List (String × Document)) :
    under name (m :: members) =
      if m.1 = name then m.2 :: under name members else under name members := by
  by_cases same : m.1 = name <;> simp [under, same]

theorem under_eq_nil_iff : under name members = [] ↔ ∀ m ∈ members, m.1 ≠ name := by
  simp [under]

theorem get?_ofNamed (known : name ∈ names) :
    (Fields.ofNamed names members).get? name = (under name members).head? := by
  unfold Fields.get? Fields.ofNamed
  induction members with
  | nil => rfl
  | cons m members ih =>
      obtain ⟨n, d⟩ := m
      rw [under_cons, List.filter_cons]
      by_cases same : n = name
      · subst same
        simp [known]
      · have other : (name == n) = false := by simpa using Ne.symm same
        rw [if_neg same, ← ih]
        split
        · rw [List.lookup_cons, other]
        · rfl

theorem pickMembers_of_byName? {written : List (List StringItem × Document)}
    (named : byName? written = some members)
    (once : ∀ name ∈ names, (under name members).length ≤ 1) :
    pickMembers names written = some (Fields.ofNamed names members).given := by
  induction written generalizing members with
  | nil =>
      cases named
      rfl
  | cons first rest ih =>
      obtain ⟨items, d⟩ := first
      simp only [byName?, List.mapM_cons, Option.bind_eq_bind, Option.pure_def,
        Option.bind_eq_some_iff, Option.map_eq_some_iff, Option.some.injEq] at named
      obtain ⟨_, ⟨name, text, rfl⟩, others, named, rfl⟩ := named
      simp only [under_cons] at once
      have picked := ih named fun other known => by
        have := once other known
        split at this
        · exact Nat.le_of_succ_le this
        · exact this
      by_cases known : name ∈ names
      · have alone : under name others = [] := by
          have := once name known
          rw [if_pos rfl, List.length_cons] at this
          exact List.eq_nil_of_length_eq_zero (by omega)
        have fresh : (Fields.ofNamed names others).given.any (·.1 == name) = false := by
          rw [List.any_eq_false]
          intro m there same
          exact under_eq_nil_iff.mp alone m (List.mem_filter.mp there).1 (eq_of_beq same)
        have chosen : (Fields.ofNamed names ((name, d) :: others)).given =
            (name, d) :: (Fields.ofNamed names others).given := by
          simp [Fields.ofNamed, known]
        simp [pickMembers, text, picked, known, fresh, chosen]
      · have skipped : (Fields.ofNamed names ((name, d) :: others)).given =
            (Fields.ofNamed names others).given := by
          simp [Fields.ofNamed, known]
        simp [pickMembers, text, picked, known, skipped]

theorem fields?_object {written : List (List StringItem × Document)}
    (named : byName? written = some members)
    (once : ∀ name ∈ names, (under name members).length ≤ 1) :
    (Document.object written).fields? names = some (.ofNamed names members) := by
  rw [Document.fields?, pickMembers_of_byName? named once]
  rfl

/-! Overlaying. -/

/-- A field, given what a base has in it: no member has its name, or one has. -/
inductive Overlaid (members : List (String × Document)) (name : String)
    (means : Document → α → Prop) (base : α) : α → Prop
  | unwritten (nothing : under name members = []) : Overlaid members name means base base
  | written {d : Document} {x : α} (once : under name members = [d]) (value : means d x) :
      Overlaid members name means base x

/-- An object that holds a part of a record. -/
def PartWritten (overlaid : List (String × Document) → ρ → ρ → Prop) (base : ρ) (d : Document)
    (record : ρ) : Prop :=
  ∃ written members, d = .object written ∧ byName? written = some members ∧
    overlaid members base record

namespace Overlaid

variable {means : Document → α → Prop} {base x : α}

theorem length_le (h : Overlaid members name means base x) : (under name members).length ≤ 1 := by
  cases h with
  | unwritten nothing => simp [nothing]
  | written once _ => simp [once]

/-- Read with the base as its default, a field is what it is overlaid to. -/
theorem withDefault_eq (h : Overlaid members name means base x) {decode : Document → Option α}
    (reads : ∀ {d y}, means d y → decode d = some y) (known : name ∈ names) :
    (Fields.ofNamed names members).withDefault name decode base = some x := by
  rw [Fields.withDefault, get?_ofNamed known]
  cases h with
  | unwritten nothing => rw [nothing, List.head?_nil]
  | written once value =>
      rw [once, List.head?_cons]
      exact reads value

end Overlaid

end ProjectDesk.Json
