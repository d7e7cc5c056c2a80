import ProjectDesk.Json.Keep
import ProjectDesk.Proofs.Json.Layout

/-!
Values that were kept. They are kept again from their own texts as they are, as long as their
brackets do not nest too deep; and only what was wrapped can nest deeper than the document it was
found in.
-/

namespace ProjectDesk.Json

namespace Value

/-! Members under distinct names. -/

theorem names_put (members : List (String × Value)) (name : String) (v : Value) :
    (put members name v).map (·.1) =
      if name ∈ members.map (·.1) then members.map (·.1) else members.map (·.1) ++ [name] := by
  induction members with
  | nil => rfl
  | cons first rest ih =>
      obtain ⟨n, old⟩ := first
      by_cases same : n = name
      · simp [put, same]
      · by_cases there : name ∈ rest.map (·.1)
        · simp_all [put]
        · simp_all [put, Ne.symm same]

theorem mem_put {members : List (String × Value)} {name : String} {v : Value}
    {m : String × Value} (hm : m ∈ put members name v) : m ∈ members ∨ m = (name, v) := by
  induction members with
  | nil => exact .inr (List.mem_singleton.mp hm)
  | cons first rest ih =>
      obtain ⟨n, old⟩ := first
      unfold put at hm
      split at hm
      · rename_i same
        rcases List.mem_cons.mp hm with rfl | hm
        · exact .inr (by rw [beq_iff_eq.mp same])
        · exact .inl (.tail _ hm)
      · rcases List.mem_cons.mp hm with rfl | hm
        · exact .inl (.head _)
        · exact (ih hm).imp_left (.tail _)

theorem put_of_not_mem {members : List (String × Value)} {name : String} (v : Value)
    (fresh : name ∉ members.map (·.1)) : put members name v = members ++ [(name, v)] := by
  induction members with
  | nil => rfl
  | cons first rest ih =>
      obtain ⟨n, old⟩ := first
      rw [List.map_cons, List.mem_cons, not_or] at fresh
      simp [put, Ne.symm fresh.1, ih fresh.2]

theorem collect_of_nodup {members : List (String × Value)}
    (distinct : (members.map (·.1)).Nodup) : collect members = members := by
  have grow (kept : List (String × Value)) (distinct : ((kept ++ members).map (·.1)).Nodup) :
      members.foldl (fun kept member => put kept member.1 member.2) kept = kept ++ members := by
    induction members generalizing kept with
    | nil => exact (List.append_nil kept).symm
    | cons first rest ih =>
        have fresh : first.1 ∉ kept.map (·.1) := by
          rw [List.map_append, List.nodup_append] at distinct
          exact fun there => distinct.2.2 _ there _ (.head _) rfl
        rw [List.append_cons] at distinct ⊢
        rw [List.foldl_cons, put_of_not_mem _ fresh]
        exact ih (List.nodup_cons.mp ‹_›).2 _ distinct
  exact grow [] distinct

theorem nodup_collect (members : List (String × Value)) :
    ((collect members).map (·.1)).Nodup := by
  refine List.foldlRecOn members _
    (motive := fun kept : List (String × Value) => (kept.map (·.1)).Nodup) ?_ ?_
  · exact List.nodup_nil
  · intro kept distinct member _
    rw [names_put]
    split
    · exact distinct
    · rename_i fresh
      refine List.nodup_append.mpr ⟨distinct, by simp, ?_⟩
      rintro a ha b hb rfl
      exact fresh (List.mem_singleton.mp hb ▸ ha)

theorem mem_of_mem_collect {members : List (String × Value)} {m : String × Value}
    (hm : m ∈ collect members) : m ∈ members := by
  revert hm
  refine List.foldlRecOn members _ (motive := fun kept => m ∈ kept → m ∈ members) nofun ?_
  intro kept known member given hm
  rcases mem_put hm with old | rfl
  · exact known old
  · exact given

/-- The first name stays the first. -/
theorem head?_collect (members : List (String × Value)) :
    ((collect members).map (·.1)).head? = (members.map (·.1)).head? := by
  cases members with
  | nil => rfl
  | cons first rest =>
      refine List.foldlRecOn rest _
        (motive := fun kept : List (String × Value) => (kept.map (·.1)).head? = some first.1) rfl ?_
      intro kept leads member _
      rw [names_put]
      split
      · exact leads
      · rw [List.head?_append, leads]
        rfl

/-! How deep brackets nest. -/

mutual

def depth : Value → Nat
  | .null | .bool _ | .number _ | .string _ => 0
  | .array items => depths items + 1
  | .object members => memberDepths members + 1

def depths : List Value → Nat
  | [] => 0
  | v :: vs => max (depth v) (depths vs)

def memberDepths : List (String × Value) → Nat
  | [] => 0
  | (_, v) :: ms => max (depth v) (memberDepths ms)

end

theorem memberDepths_le_iff {members : List (String × Value)} {n : Nat} :
    memberDepths members ≤ n ↔ ∀ m ∈ members, m.2.depth ≤ n := by
  induction members with
  | nil => simp [memberDepths]
  | cons m ms ih => rw [memberDepths, Nat.max_le, ih, List.forall_mem_cons]

/-! What can be kept. -/

mutual

/-- Fit to be kept as it is. -/
def Kept : Value → Prop
  | .null | .bool _ | .string _ | .number (.double _) => True
  | .number (.whole n) => IsKept n
  | .array items => AllKept items
  | .object members =>
      (members.map (·.1)).Nodup ∧ (members.map (·.1)).head? ≠ some wrapperName ∧
        MembersKept members

def AllKept : List Value → Prop
  | [] => True
  | v :: vs => Kept v ∧ AllKept vs

def MembersKept : List (String × Value) → Prop
  | [] => True
  | (_, v) :: ms => Kept v ∧ MembersKept ms

end

theorem membersKept_iff {members : List (String × Value)} :
    MembersKept members ↔ ∀ m ∈ members, Kept m.2 := by
  induction members with
  | nil => simp [MembersKept]
  | cons m ms ih => rw [MembersKept, ih, List.forall_mem_cons]

end Value

theorem isKept_of_number? {n : Numeral} {k : Int} (h : n.number? = some (.whole k)) :
    IsKept k := by
  have double (x : Option Double) : x.map Number.double ≠ some (.whole k) := by
    cases x <;> simp
  unfold Numeral.number? gatherLimit at h
  dsimp only at h
  unfold IsKept
  split at h
  · split at h
    · split at h
      · rename_i small
        simp only [Bool.and_eq_true, decide_eq_true_eq] at small
        simp only [Option.some.injEq, Number.whole.injEq] at h
        omega
      · exact absurd h (double _)
    · split at h
      · simp only [Option.some.injEq, Number.whole.injEq] at h
        omega
      · exact absurd h (double _)
  · exact absurd h (double _)

namespace Document

variable {inner : String → Option Value}

/-- The first name that is kept is the first one that there is. -/
theorem head?_of_membersWith? {room : Nat} {members : List (List StringItem × Document)}
    {ms : List (String × Value)} (h : membersWith? inner room members = some ms) :
    (ms.map (·.1)).head? = members.head?.bind fun member => text? member.1 := by
  cases members with
  | nil =>
      cases h
      rfl
  | cons member rest =>
      obtain ⟨name, d⟩ := member
      simp only [membersWith?, Option.bind_eq_bind, Option.bind_eq_some_iff] at h
      obtain ⟨n, text, v, -, vs, -, same⟩ := h
      cases same
      simp [text]

mutual

theorem kept_of_valueWith? (known : ∀ s v, inner s = some v → v.Kept) {room : Nat} {d : Document}
    {v : Value} (h : d.valueWith? inner room = some v) : v.Kept := by
  cases d with
  | null | bool _ =>
      cases h
      trivial
  | number n =>
      obtain ⟨number, read, rfl⟩ := Option.map_eq_some_iff.mp h
      cases number with
      | whole k => exact isKept_of_number? read
      | double x => trivial
  | string items =>
      obtain ⟨s, -, rfl⟩ := Option.map_eq_some_iff.mp h
      trivial
  | array items =>
      cases room with
      | zero => cases h
      | succ room =>
          obtain ⟨vs, all, rfl⟩ := Option.map_eq_some_iff.mp h
          exact allKept_of_valuesWith? known all
  | object members =>
      cases room with
      | zero => cases h
      | succ room =>
          rw [valueWith?] at h
          split at h
          · obtain ⟨s, -, inside⟩ := Option.bind_eq_some_iff.mp h
            exact known s v inside
          · rename_i plain
            obtain ⟨ms, all, rfl⟩ := Option.map_eq_some_iff.mp h
            refine ⟨Value.nodup_collect ms, ?_, ?_⟩
            · rw [Value.head?_collect, head?_of_membersWith? all]
              cases members with
              | nil => nofun
              | cons member rest => simpa [isWrapper] using plain
            · have kept := Value.membersKept_iff.mp (membersKept_of_membersWith? known all)
              exact Value.membersKept_iff.mpr fun m hm => kept m (Value.mem_of_mem_collect hm)

theorem allKept_of_valuesWith? (known : ∀ s v, inner s = some v → v.Kept) {room : Nat}
    {ds : List Document} {vs : List Value} (h : valuesWith? inner room ds = some vs) :
    Value.AllKept vs := by
  cases ds with
  | nil =>
      cases h
      trivial
  | cons d ds =>
      simp only [valuesWith?, Option.bind_eq_bind, Option.bind_eq_some_iff] at h
      obtain ⟨v, first, vs, others, same⟩ := h
      cases same
      exact ⟨kept_of_valueWith? known first, allKept_of_valuesWith? known others⟩

theorem membersKept_of_membersWith? (known : ∀ s v, inner s = some v → v.Kept) {room : Nat}
    {members : List (List StringItem × Document)} {ms : List (String × Value)}
    (h : membersWith? inner room members = some ms) : Value.MembersKept ms := by
  cases members with
  | nil =>
      cases h
      trivial
  | cons member members =>
      obtain ⟨name, d⟩ := member
      simp only [membersWith?, Option.bind_eq_bind, Option.bind_eq_some_iff] at h
      obtain ⟨n, -, v, first, ms, others, same⟩ := h
      cases same
      exact ⟨kept_of_valueWith? known first, membersKept_of_membersWith? known others⟩

end

end Document

theorem kept_of_keepText {levels : Nat} {text : String} {v : Value}
    (h : keepText levels text = some v) : v.Kept := by
  induction levels generalizing text v with
  | zero => cases h
  | succ levels ih =>
      obtain ⟨d, -, kept⟩ := Option.bind_eq_some_iff.mp h
      exact Document.kept_of_valueWith? (fun _ _ => ih) kept

/-- Also what was wrapped in a text can be kept as it is. -/
theorem Document.kept_of_value? {room : Nat} {d : Document} {v : Value}
    (h : d.value? room = some v) : v.Kept :=
  kept_of_valueWith? (fun _ _ => kept_of_keepText) h

/-! Kept again. -/

namespace Document

theorem isWrapper_ofMembers {ms : List (String × Value)}
    (plain : (ms.map (·.1)).head? ≠ some wrapperName) : isWrapper (ofMembers ms) = false := by
  cases ms with
  | nil => rfl
  | cons member ms => simpa [ofMembers, isWrapper] using plain

variable (inner : String → Option Value)

mutual

theorem valueWith?_ofValue {v : Value} (whole : v.isWhole = true) (kept : v.Kept) (room : Nat) :
    (ofValue v).valueWith? inner room = if v.depth ≤ room then some v else none := by
  cases v with
  | null | bool _ => simp [ofValue, valueWith?, Value.depth]
  | number n =>
      cases n with
      | whole k => simp [ofValue, valueWith?, Value.depth, numeral_whole, number?_ofWhole kept]
      | double x => cases whole
  | string s => simp [ofValue, valueWith?, Value.depth]
  | array items =>
      cases room with
      | zero => simp [ofValue, valueWith?, Value.depth]
      | succ room =>
          have all := valuesWith?_ofValues whole kept room
          by_cases shallow : Value.depths items ≤ room
          all_goals simp [ofValue, valueWith?, Value.depth, all, shallow]
  | object members =>
      obtain ⟨distinct, plain, kept⟩ := kept
      cases room with
      | zero => simp [ofValue, valueWith?, Value.depth]
      | succ room =>
          have all := membersWith?_ofMembers whole kept room
          have collected := Value.collect_of_nodup distinct
          by_cases shallow : Value.memberDepths members ≤ room
          all_goals
            simp [ofValue, valueWith?, Value.depth, isWrapper_ofMembers plain, all, shallow,
              collected]

theorem valuesWith?_ofValues {vs : List Value} (whole : Value.areWhole vs = true)
    (kept : Value.AllKept vs) (room : Nat) :
    valuesWith? inner room (ofValues vs) =
      if Value.depths vs ≤ room then some vs else none := by
  cases vs with
  | nil => rfl
  | cons v vs =>
      obtain ⟨first, others⟩ := Bool.and_eq_true_iff.mp whole
      have head := valueWith?_ofValue first kept.1 room
      have tail := valuesWith?_ofValues others kept.2 room
      have deep : Value.depths (v :: vs) ≤ room ↔ v.depth ≤ room ∧ Value.depths vs ≤ room :=
        Nat.max_le
      by_cases shallow : v.depth ≤ room <;> by_cases within : Value.depths vs ≤ room
      all_goals simp [ofValues, valuesWith?, deep, head, tail, shallow, within]

theorem membersWith?_ofMembers {ms : List (String × Value)} (whole : Value.membersAreWhole ms = true)
    (kept : Value.MembersKept ms) (room : Nat) :
    membersWith? inner room (ofMembers ms) =
      if Value.memberDepths ms ≤ room then some ms else none := by
  cases ms with
  | nil => rfl
  | cons member ms =>
      obtain ⟨n, v⟩ := member
      obtain ⟨first, others⟩ := Bool.and_eq_true_iff.mp whole
      have head := valueWith?_ofValue first kept.1 room
      have tail := membersWith?_ofMembers others kept.2 room
      have deep : Value.memberDepths ((n, v) :: ms) ≤ room ↔
          v.depth ≤ room ∧ Value.memberDepths ms ≤ room := Nat.max_le
      by_cases shallow : v.depth ≤ room <;> by_cases within : Value.memberDepths ms ≤ room
      all_goals simp [ofMembers, membersWith?, deep, head, tail, shallow, within]

end

/-- What was kept is kept again as it is, if there is room for its brackets. -/
theorem value?_ofValue {v : Value} (whole : v.isWhole = true) (kept : v.Kept) (room : Nat) :
    (ofValue v).value? room = if v.depth ≤ room then some v else none :=
  valueWith?_ofValue wrappedValue whole kept room

/-- In a wrapper there is room for brackets anew. -/
theorem value?_wrapper {v : Value} (whole : v.isWhole = true) (kept : v.Kept) (room : Nat) :
    (ofValue (.object [(wrapperName, .string v.compact)])).value? (room + 1) =
      if v.depth ≤ depthLimit then some v else none := by
  have inside := valueWith?_ofValue (keepText v.compact.length) whole kept depthLimit
  simp [ofValue, ofMembers, value?, valueWith?, isWrapper, wrapped?, wrappedValue, keepText,
    Value.read_compact whole, inside]

/-! Without wrappers. -/

mutual

/-- No object in it stands for a text. -/
def wrapsNothing : Document → Bool
  | .null | .bool _ | .number _ | .string _ => true
  | .array items => wrapNothing items
  | .object members => !isWrapper members && membersWrapNothing members

def wrapNothing : List Document → Bool
  | [] => true
  | d :: ds => wrapsNothing d && wrapNothing ds

def membersWrapNothing : List (List StringItem × Document) → Bool
  | [] => true
  | (_, d) :: ds => wrapsNothing d && membersWrapNothing ds

end

variable {inner : String → Option Value}

mutual

theorem depth_le_of_valueWith? {d : Document} (plain : d.wrapsNothing = true) {room : Nat}
    {v : Value} (h : d.valueWith? inner room = some v) : v.depth ≤ room := by
  cases d with
  | null | bool _ =>
      cases h
      exact Nat.zero_le _
  | number _ | string _ =>
      obtain ⟨_, -, rfl⟩ := Option.map_eq_some_iff.mp h
      exact Nat.zero_le _
  | array items =>
      cases room with
      | zero => cases h
      | succ room =>
          obtain ⟨vs, all, rfl⟩ := Option.map_eq_some_iff.mp h
          exact Nat.succ_le_succ (depths_le_of_valuesWith? plain all)
  | object members =>
      obtain ⟨outer, within⟩ := Bool.and_eq_true_iff.mp plain
      rw [Bool.not_eq_true'] at outer
      cases room with
      | zero => cases h
      | succ room =>
          rw [valueWith?, outer] at h
          obtain ⟨ms, all, rfl⟩ := Option.map_eq_some_iff.mp h
          have shallow := Value.memberDepths_le_iff.mp (memberDepths_le_of_membersWith? within all)
          refine Nat.succ_le_succ (Value.memberDepths_le_iff.mpr fun m hm => ?_)
          exact shallow m (Value.mem_of_mem_collect hm)

theorem depths_le_of_valuesWith? {ds : List Document} (plain : wrapNothing ds = true) {room : Nat}
    {vs : List Value} (h : valuesWith? inner room ds = some vs) : Value.depths vs ≤ room := by
  cases ds with
  | nil =>
      cases h
      exact Nat.zero_le _
  | cons d ds =>
      obtain ⟨outer, within⟩ := Bool.and_eq_true_iff.mp plain
      simp only [valuesWith?, Option.bind_eq_bind, Option.bind_eq_some_iff] at h
      obtain ⟨v, first, vs, others, same⟩ := h
      cases same
      exact Nat.max_le.mpr
        ⟨depth_le_of_valueWith? outer first, depths_le_of_valuesWith? within others⟩

theorem memberDepths_le_of_membersWith? {members : List (List StringItem × Document)}
    (plain : membersWrapNothing members = true) {room : Nat} {ms : List (String × Value)}
    (h : membersWith? inner room members = some ms) : Value.memberDepths ms ≤ room := by
  cases members with
  | nil =>
      cases h
      exact Nat.zero_le _
  | cons member members =>
      obtain ⟨name, d⟩ := member
      obtain ⟨outer, within⟩ := Bool.and_eq_true_iff.mp plain
      simp only [membersWith?, Option.bind_eq_bind, Option.bind_eq_some_iff] at h
      obtain ⟨n, -, v, first, ms, others, same⟩ := h
      cases same
      exact Nat.max_le.mpr
        ⟨depth_le_of_valueWith? outer first, memberDepths_le_of_membersWith? within others⟩

end

end Document

/-- The value of a JSON text, if there is room for its brackets. -/
def valueOf? (room : Nat) (text : String) : Option Value :=
  (read text).bind (·.value? room)

theorem valueOf?_compact {v : Value} (whole : v.isWhole = true) (kept : v.Kept) (room : Nat) :
    valueOf? room v.compact = if v.depth ≤ room then some v else none := by
  rw [valueOf?, Value.read_compact whole, Option.bind_some]
  exact Document.value?_ofValue whole kept room

end ProjectDesk.Json
