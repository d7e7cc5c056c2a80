import ProjectDesk.Proofs.Json.Token

/-!
Texts of values. Between its brackets, commas and colons a text may have space or none; whichever it
has, reading finds the value taken apart.
-/

namespace ProjectDesk.Json

/-- The numeral that a number is written as. -/
def Number.numeral (n : Number) : Numeral :=
  match readNumeral n.text with
  | some (numeral, _) => numeral
  | none => .ofWhole 0

namespace Document

mutual

/-- A value taken apart. -/
def ofValue : Value → Document
  | .null => .null
  | .bool b => .bool b
  | .number n => .number n.numeral
  | .string s => .string (textItems s)
  | .array items => .array (ofValues items)
  | .object members => .object (ofMembers members)

def ofValues : List Value → List Document
  | [] => []
  | v :: vs => ofValue v :: ofValues vs

def ofMembers : List (String × Value) → List (List StringItem × Document)
  | [] => []
  | (n, v) :: ms => (textItems n, ofValue v) :: ofMembers ms

end

end Document

/-- Nothing but space. -/
def IsGap (gap : List Char) : Prop :=
  ∀ c ∈ gap, isSpace c = true

theorem isGap_nil : IsGap [] := nofun

mutual

/-- The texts of a value without doubles. -/
inductive Written : Value → List Char → Prop
  | null : Written .null ['n', 'u', 'l', 'l']
  | yes : Written (.bool true) ['t', 'r', 'u', 'e']
  | no : Written (.bool false) ['f', 'a', 'l', 's', 'e']
  | whole (n : Int) : Written (.number (.whole n)) (Text.decimalChars n)
  | string (s : String) : Written (.string s) (stringText s)
  | noItems : Written (.array []) ['[', ']']
  | items {v : Value} {vs : List Value} {gap cs more : List Char} (space : IsGap gap)
      (first : Written v cs) (others : ItemsWritten vs more) :
      Written (.array (v :: vs)) ('[' :: (gap ++ (cs ++ more)))
  | noMembers : Written (.object []) ['\x7b', '\x7d']
  | members {n : String} {v : Value} {ms : List (String × Value)} {gap gap' cs more : List Char}
      (space : IsGap gap) (space' : IsGap gap') (first : Written v cs)
      (others : MembersWritten ms more) :
      Written (.object ((n, v) :: ms))
        ('\x7b' :: (gap ++ (stringText n ++ ':' :: (gap' ++ (cs ++ more)))))

/-- What may come after the first item. -/
inductive ItemsWritten : List Value → List Char → Prop
  | close {gap : List Char} (space : IsGap gap) : ItemsWritten [] (gap ++ [']'])
  | next {v : Value} {vs : List Value} {gap cs more : List Char} (space : IsGap gap)
      (first : Written v cs) (others : ItemsWritten vs more) :
      ItemsWritten (v :: vs) (',' :: (gap ++ (cs ++ more)))

inductive MembersWritten : List (String × Value) → List Char → Prop
  | close {gap : List Char} (space : IsGap gap) : MembersWritten [] (gap ++ ['\x7d'])
  | next {n : String} {v : Value} {ms : List (String × Value)} {gap gap' cs more : List Char}
      (space : IsGap gap) (space' : IsGap gap') (first : Written v cs)
      (others : MembersWritten ms more) :
      MembersWritten ((n, v) :: ms)
        (',' :: (gap ++ (stringText n ++ ':' :: (gap' ++ (cs ++ more)))))

end

variable {v : Value} {vs : List Value} {ms : List (String × Value)} {gap cs more rest : List Char}

theorem skipSpace_gap (space : IsGap gap) (rest : List Char) :
    skipSpace (gap ++ rest) = skipSpace rest :=
  List.dropWhile_append_of_pos space

theorem readValue_gap (space : IsGap gap) (fuel : Nat) (rest : List Char) :
    readValue fuel (gap ++ rest) = readValue fuel rest := by
  cases fuel with
  | zero => rfl
  | succ fuel => simp only [readValue, skipSpace_gap space]

theorem isSpace_eq_false {c : Char} (h : Text.IsDecimal c) : isSpace c = false := by
  cases space : isSpace c with
  | false => rfl
  | true =>
      simp only [isSpace, Bool.or_eq_true, beq_iff_eq] at space
      rcases space with ((rfl | rfl) | rfl) | rfl <;> exact absurd h (by decide)

/-- What stands at the start of a value. -/
theorem Written.begins (h : Written v cs) :
    ∃ c more, cs = c :: more ∧ isSpace c = false ∧ c ≠ ']' ∧ c ≠ '\x7d' := by
  cases h with
  | whole n =>
      obtain ⟨c, more, chars⟩ := List.exists_cons_of_ne_nil (Text.decimalChars_ne_nil n)
      have decimal : Text.IsDecimal c := Text.isDecimal_of_mem (n := n) (by simp [chars])
      refine ⟨c, more, chars, isSpace_eq_false decimal, ?_, ?_⟩
      all_goals
        rintro rfl
        exact absurd decimal (by decide)
  | _ => exact ⟨_, _, rfl, by decide, by decide, by decide⟩

theorem skipSpace_cons {c : Char} (solid : isSpace c = false) (rest : List Char) :
    skipSpace (c :: rest) = c :: rest :=
  List.dropWhile_cons_of_neg (by simp [solid])

theorem Written.skipSpace_append (h : Written v cs) (rest : List Char) :
    skipSpace (cs ++ rest) = cs ++ rest := by
  obtain ⟨c, more, rfl, solid, -⟩ := h.begins
  exact skipSpace_cons solid _

theorem endsNumber_cons {c : Char} (digit : c.isDigit = false)
    (other : c ≠ '.' ∧ c ≠ 'e' ∧ c ≠ 'E') (rest : List Char) : EndsNumber (c :: rest) := by
  constructor
  · exact Text.endsDigits_cons digit rest
  · simpa using other

theorem endsNumber_gap {close : Char} (space : IsGap gap) (digit : close.isDigit = false)
    (other : close ≠ '.' ∧ close ≠ 'e' ∧ close ≠ 'E') (rest : List Char) :
    EndsNumber (gap ++ [close] ++ rest) := by
  cases gap with
  | nil => exact endsNumber_cons digit other rest
  | cons c gap =>
      have blank : isSpace c = true := space c (.head _)
      simp only [isSpace, Bool.or_eq_true, beq_iff_eq] at blank
      refine endsNumber_cons ?_ ?_ _
      all_goals
        rcases blank with ((rfl | rfl) | rfl) | rfl <;> decide

theorem ItemsWritten.endsNumber (h : ItemsWritten vs more) (rest : List Char) :
    EndsNumber (more ++ rest) := by
  cases h with
  | close space => exact endsNumber_gap space rfl (by decide) rest
  | next _ _ _ => exact endsNumber_cons rfl (by decide) _

theorem MembersWritten.endsNumber (h : MembersWritten ms more) (rest : List Char) :
    EndsNumber (more ++ rest) := by
  cases h with
  | close space => exact endsNumber_gap space rfl (by decide) rest
  | next _ _ _ _ => exact endsNumber_cons rfl (by decide) _

theorem stringText_append (s : String) (rest : List Char) :
    stringText s ++ rest = '"' :: (s.toList.flatMap escapeChar ++ '"' :: rest) := by
  simp [stringText]

theorem skipSpace_stringText (s : String) (rest : List Char) :
    skipSpace (stringText s ++ rest) = stringText s ++ rest := by
  rw [stringText_append]
  exact skipSpace_cons rfl _

/-- A member's name is found behind any space. -/
theorem readName_stringText (space : IsGap gap) (s : String) (rest : List Char) :
    readName (skipSpace (gap ++ (stringText s ++ ':' :: rest))) = some (textItems s, rest) := by
  rw [skipSpace_gap space, skipSpace_stringText, stringText_append]
  simp [readName, readString_text, skipSpace_cons (c := ':') rfl]

theorem numeral_whole (n : Int) : (Number.whole n).numeral = .ofWhole n := by
  have read : readNumeral (Text.decimalChars n ++ []) = some (.ofWhole n, []) :=
    readNumeral_decimalChars n ⟨nofun, nofun⟩
  rw [List.append_nil] at read
  simp [Number.numeral, Number.text, read]

theorem readValue_decimalChars (n : Int) (fuel : Nat) (ends : EndsNumber rest) :
    readValue (fuel + 1) (Text.decimalChars n ++ rest) = some (.number (.ofWhole n), rest) := by
  have read := readNumeral_decimalChars n ends
  obtain ⟨c, more, chars⟩ := List.exists_cons_of_ne_nil (Text.decimalChars_ne_nil n)
  have decimal : Text.IsDecimal c := Text.isDecimal_of_mem (n := n) (by simp [chars])
  rw [readValue, (Written.whole n).skipSpace_append]
  rw [chars, List.cons_append] at read ⊢
  -- None of the other kinds of value begins like a number.
  split
  case h_7 => simp [read]
  all_goals
    rename_i same
    obtain rfl := (List.cons.inj same).1
    exact absurd decimal (by decide)

theorem pos_of_written (h : Written v cs) {fuel : Nat} (enough : 2 * cs.length ≤ fuel) :
    ∃ less, fuel = less + 1 := by
  obtain ⟨c, more, rfl, -⟩ := h.begins
  rw [List.length_cons] at enough
  exact ⟨fuel - 1, by omega⟩

mutual

theorem Written.read {v : Value} {cs : List Char} (h : Written v cs) (fuel : Nat)
    (rest : List Char) (enough : 2 * cs.length ≤ fuel) (ends : EndsNumber rest) :
    readValue fuel (cs ++ rest) = some (Document.ofValue v, rest) := by
  obtain ⟨fuel, rfl⟩ := pos_of_written h enough
  cases h with
  | null | yes | no | noItems | noMembers => rfl
  | whole n =>
      rw [readValue_decimalChars n fuel ends]
      simp [Document.ofValue, numeral_whole]
  | string s =>
      rw [stringText_append]
      simp [readValue, skipSpace_cons (c := '"') rfl, readString_text, Document.ofValue]
  | @items _ _ gap cs more space first others =>
      simp only [List.length_cons, List.length_append] at enough
      obtain ⟨fuel, rfl⟩ : ∃ less, fuel = less + 1 := ⟨fuel - 1, by omega⟩
      have head := Written.read first fuel (more ++ rest) (by omega) (others.endsNumber rest)
      have all := ItemsWritten.read others fuel rest (by omega) head
      have begins := first.skipSpace_append (more ++ rest)
      obtain ⟨c, after, rfl, -, goesOn, -⟩ := first.begins
      simp only [List.cons_append, List.append_assoc] at all begins ⊢
      simp [readValue, skipSpace_cons (c := '[') rfl, skipSpace_gap space, begins, goesOn, all,
        Document.ofValue, Document.ofValues]
  | @members n v ms gap gap' cs more space space' first others =>
      simp only [List.length_cons, List.length_append] at enough
      obtain ⟨fuel, rfl⟩ : ∃ less, fuel = less + 1 := ⟨fuel - 1, by omega⟩
      have head := Written.read first fuel (more ++ rest) (by omega) (others.endsNumber rest)
      rw [← readValue_gap space'] at head
      have name := readName_stringText isGap_nil n (gap' ++ (cs ++ (more ++ rest)))
      have all := MembersWritten.read others fuel rest (by omega) name head
      have begins := skipSpace_stringText n (':' :: (gap' ++ (cs ++ (more ++ rest))))
      simp only [List.nil_append, stringText_append] at all begins
      simp [readValue, skipSpace_cons (c := '\x7b') rfl, skipSpace_gap space, stringText_append,
        begins, all, Document.ofValue, Document.ofMembers]

/-- The first item is where the text before this begins. -/
theorem ItemsWritten.read {vs : List Value} {more : List Char} (h : ItemsWritten vs more)
    (fuel : Nat) (rest : List Char) (enough : 2 * more.length ≤ fuel) {d : Document}
    {before : List Char} (first : readValue fuel before = some (d, more ++ rest)) :
    readItems (fuel + 1) before = some (d :: Document.ofValues vs, rest) := by
  cases h with
  | close space =>
      rw [List.append_assoc] at first
      simp [readItems, first, skipSpace_gap space, skipSpace_cons (c := ']') rfl,
        Document.ofValues]
  | @next _ _ gap cs more space second others =>
      simp only [List.length_cons, List.length_append] at enough
      obtain ⟨fuel, rfl⟩ : ∃ less, fuel = less + 1 := ⟨fuel - 1, by omega⟩
      have head := Written.read second fuel (more ++ rest) (by omega) (others.endsNumber rest)
      rw [← readValue_gap space] at head
      have all := ItemsWritten.read others fuel rest (by omega) head
      simp only [List.cons_append, List.append_assoc] at first
      rw [readItems, first]
      simp [skipSpace_cons (c := ',') rfl, all, Document.ofValues]

theorem MembersWritten.read {ms : List (String × Value)} {more : List Char}
    (h : MembersWritten ms more) (fuel : Nat) (rest : List Char) (enough : 2 * more.length ≤ fuel)
    {n : List StringItem} {d : Document} {before after : List Char}
    (name : readName (skipSpace before) = some (n, after))
    (first : readValue fuel after = some (d, more ++ rest)) :
    readMembers (fuel + 1) before = some ((n, d) :: Document.ofMembers ms, rest) := by
  cases h with
  | close space =>
      rw [List.append_assoc] at first
      simp [readMembers, name, first, skipSpace_gap space, skipSpace_cons (c := '\x7d') rfl,
        Document.ofMembers]
  | @next n' v ms gap gap' cs more space space' second others =>
      simp only [List.length_cons, List.length_append] at enough
      obtain ⟨fuel, rfl⟩ : ∃ less, fuel = less + 1 := ⟨fuel - 1, by omega⟩
      have head := Written.read second fuel (more ++ rest) (by omega) (others.endsNumber rest)
      rw [← readValue_gap space'] at head
      have name' := readName_stringText space n' (gap' ++ (cs ++ (more ++ rest)))
      have all := MembersWritten.read others fuel rest (by omega) name' head
      simp only [List.cons_append, List.append_assoc] at first
      rw [readMembers, name]
      simp [first, skipSpace_cons (c := ',') rfl, all, Document.ofMembers]

end

theorem Written.readChars (h : Written v cs) : readChars cs = some (Document.ofValue v) := by
  have read := h.read (2 * cs.length + 2) [] (by omega) ⟨nofun, nofun⟩
  rw [List.append_nil] at read
  simp [Json.readChars, read, skipSpace]

/-! Without space. -/

namespace Value

mutual

/-- Without doubles. -/
def isWhole : Value → Bool
  | .number (.double _) => false
  | .null | .bool _ | .number (.whole _) | .string _ => true
  | .array items => areWhole items
  | .object members => membersAreWhole members

def areWhole : List Value → Bool
  | [] => true
  | v :: vs => isWhole v && areWhole vs

def membersAreWhole : List (String × Value) → Bool
  | [] => true
  | (_, v) :: ms => isWhole v && membersAreWhole ms

end

theorem membersAreWhole_iff {members : List (String × Value)} :
    membersAreWhole members = true ↔ ∀ m ∈ members, m.2.isWhole = true := by
  induction members with
  | nil => simp [membersAreWhole]
  | cons m ms ih => rw [membersAreWhole, Bool.and_eq_true, ih, List.forall_mem_cons]

@[simp] theorem isWhole_strings (xs : List String) : (strings xs).isWhole = true := by
  have all : areWhole (xs.map .string) = true := by
    induction xs with
    | nil => rfl
    | cons x xs ih => simp [areWhole, isWhole, ih]
  simpa [strings, isWhole] using all

@[simp] theorem isWhole_orNull_string (x : Option String) : (orNull .string x).isWhole = true := by
  cases x <;> rfl

mutual

theorem written_text {v : Value} (whole : v.isWhole = true) : Written v v.text := by
  cases v with
  | null => exact .null
  | bool b =>
      cases b with
      | false => exact .no
      | true => exact .yes
  | number n =>
      cases n with
      | whole n => exact .whole n
      | double x => cases whole
  | string s => exact .string s
  | array items =>
      cases items with
      | nil => exact .noItems
      | cons v vs =>
          obtain ⟨first, others⟩ := Bool.and_eq_true_iff.mp whole
          exact .items isGap_nil (written_text first) (written_itemsText others)
  | object members =>
      cases members with
      | nil => exact .noMembers
      | cons member ms =>
          obtain ⟨n, v⟩ := member
          obtain ⟨first, others⟩ := Bool.and_eq_true_iff.mp whole
          have laid := Written.members (n := n) isGap_nil isGap_nil (written_text first)
            (written_membersText others)
          simpa [text] using laid

theorem written_itemsText {vs : List Value} (whole : areWhole vs = true) :
    ItemsWritten vs (itemsText vs) := by
  cases vs with
  | nil => exact .close isGap_nil
  | cons v vs =>
      obtain ⟨first, others⟩ := Bool.and_eq_true_iff.mp whole
      exact .next isGap_nil (written_text first) (written_itemsText others)

theorem written_membersText {ms : List (String × Value)} (whole : membersAreWhole ms = true) :
    MembersWritten ms (membersText ms) := by
  cases ms with
  | nil => exact .close isGap_nil
  | cons member ms =>
      obtain ⟨n, v⟩ := member
      obtain ⟨first, others⟩ := Bool.and_eq_true_iff.mp whole
      have laid := MembersWritten.next (n := n) isGap_nil isGap_nil (written_text first)
        (written_membersText others)
      simpa [membersText] using laid

end

/-- What is written is read as the value taken apart. -/
theorem read_compact {v : Value} (whole : v.isWhole = true) :
    read v.compact = some (Document.ofValue v) := by
  have read := (written_text whole).readChars
  simpa [Json.read, compact] using read

end Value

end ProjectDesk.Json
