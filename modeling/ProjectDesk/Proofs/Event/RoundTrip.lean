import ProjectDesk.Proofs.Event.Codec

/-!
Events written and read again. An event is read back as it was, and written the same once more, if
its payload leaves room for the two brackets around it. Only a payload that was wrapped in a text
can be deeper, and then the event is not read back.
-/

namespace ProjectDesk

open Json Json.Document

namespace DomainEvent

/-- What a hook is to forward. -/
def payload? : DomainEvent → Option Value
  | .hook e => some e.payload
  | _ => none

def Valid : DomainEvent → Prop
  | .pullArtifact e | .pushArtifact e => e.Valid
  | .approveRequest e | .rejectRequest e => e.Valid
  | .hook e => e.Valid

theorem valid_of_ofData {kind : EventKind} {data : Document} {e : DomainEvent}
    (h : ofData kind data = some e) :
    e.Valid ∧ (data.wrapsNothing = true → ∀ v ∈ e.payload?, v.depth ≤ HookEvent.payloadRoom) := by
  cases kind with
  | pullArtifact | pushArtifact =>
      obtain ⟨e, read, rfl⟩ := Option.map_eq_some_iff.mp h
      exact ⟨ArtifactEvent.valid_of_ofDocument read, nofun⟩
  | approveRequest | rejectRequest =>
      obtain ⟨e, read, rfl⟩ := Option.map_eq_some_iff.mp h
      exact ⟨RequestEvent.valid_of_ofDocument read, nofun⟩
  | hook =>
      obtain ⟨e, read, rfl⟩ := Option.map_eq_some_iff.mp h
      obtain ⟨valid, shallow⟩ := HookEvent.valid_of_ofDocument read
      refine ⟨valid, fun plain v hv => ?_⟩
      cases hv
      exact shallow plain

theorem valid_of_ofDocument {d : Document} {e : DomainEvent} (h : ofDocument d = some e) :
    e.Valid ∧ (d.wrapsNothing = true → ∀ v ∈ e.payload?, v.depth ≤ HookEvent.payloadRoom) := by
  simp only [ofDocument, Option.bind_eq_bind, Option.bind_eq_some_iff] at h
  obtain ⟨fields, hf, kind, -, data, there, read⟩ := h
  split at read
  · obtain ⟨valid, shallow⟩ := valid_of_ofData read
    exact ⟨valid, fun plain => shallow (wrapsNothing_field plain hf there)⟩
  · cases read

theorem ofName?_name (kind : EventKind) : EventKind.ofName? kind.name = some kind := by
  cases kind <;> rfl

/-- An event with other data in its place. -/
def envelope (kind : EventKind) (data : Value) : Value :=
  .object [("kind", .string kind.name), ("data", data)]

/-- The kind comes first, so the data is read where it stands. -/
theorem ofDocument_envelope (kind : EventKind) (data : Value) :
    ofDocument (ofValue (envelope kind data)) = ofData kind (ofValue data) := by
  have fields : (ofValue (envelope kind data)).fields? fieldNames = _ :=
    fields?_ofValue rfl (by decide)
  have named : (ofValue (.string kind.name)).name? = some kind.name := by simp [ofValue, name?]
  have readable : dataReadable (.ofMembers [("kind", .string kind.name), ("data", data)])
      (ofValue data) = true := rfl
  simp [ofDocument, fields, Fields.required, List.lookup_cons, named, ofName?_name, readable]

theorem ofData_dataValue {e : DomainEvent} (valid : e.Valid)
    (whole : ∀ v ∈ e.payload?, v.isWhole = true) :
    ofData e.kind (ofValue e.dataValue) =
      if ∀ v ∈ e.payload?, v.depth ≤ HookEvent.payloadRoom then some e else none := by
  cases e with
  | pullArtifact e | pushArtifact e =>
      simp [ofData, kind, dataValue, payload?, ArtifactEvent.ofDocument_toValue valid]
  | approveRequest e | rejectRequest e =>
      simp [ofData, kind, dataValue, payload?, RequestEvent.ofDocument_toValue valid]
  | hook e =>
      have read := HookEvent.ofDocument_toValue valid (whole _ rfl)
      by_cases shallow : e.payload.depth ≤ HookEvent.payloadRoom
      all_goals simp [ofData, kind, dataValue, payload?, read, shallow]

theorem isWhole_toValue {e : DomainEvent} (whole : ∀ v ∈ e.payload?, v.isWhole = true) :
    e.toValue.isWhole = true := by
  cases e with
  | pullArtifact e | pushArtifact e =>
      simp [toValue, Value.isWhole, Value.membersAreWhole, dataValue, ArtifactEvent.toValue,
        Artifact.toValue, Value.whole, instantValue]
  | approveRequest _ | rejectRequest _ => rfl
  | hook e =>
      have payload : e.payload.isWhole = true := whole _ rfl
      simp [toValue, Value.isWhole, Value.membersAreWhole, dataValue, HookEvent.toValue,
        HookTarget.toValue, instantValue, payload]

theorem read_compact {e : DomainEvent} (valid : e.Valid)
    (whole : ∀ v ∈ e.payload?, v.isWhole = true) :
    read e.toValue.compact =
      if ∀ v ∈ e.payload?, v.depth ≤ HookEvent.payloadRoom then some e else none := by
  rw [read, Value.read_compact (isWhole_toValue whole), Option.bind_some]
  exact (ofDocument_envelope e.kind e.dataValue).trans (ofData_dataValue valid whole)

theorem round_trip {text : String} {e : DomainEvent} (h : read text = some e)
    (whole : ∀ v ∈ e.payload?, v.isWhole = true) :
    ((∀ v ∈ e.payload?, v.depth ≤ HookEvent.payloadRoom) →
      read e.toValue.compact = some e ∧
        (read e.toValue.compact).map (·.toValue.compact) = some e.toValue.compact) ∧
    ((∃ v ∈ e.payload?, HookEvent.payloadRoom < v.depth) → read e.toValue.compact = none) ∧
    (∀ d, Json.read text = some d → d.wrapsNothing = true →
      ∀ v ∈ e.payload?, v.depth ≤ HookEvent.payloadRoom) := by
  obtain ⟨d, parsed, understood⟩ := Option.bind_eq_some_iff.mp h
  obtain ⟨valid, shallow⟩ := valid_of_ofDocument understood
  have again := read_compact valid whole
  refine ⟨fun fits => ?_, fun ⟨v, hv, deep⟩ => ?_, fun d' parsed' => ?_⟩
  · rw [if_pos fits] at again
    exact ⟨again, by rw [again, Option.map_some]⟩
  · exact again.trans (if_neg fun fits => absurd (fits v hv) (Nat.not_le.mpr deep))
  · obtain rfl := Option.some.inj (parsed.symm.trans parsed')
    exact shallow

/-- Forwards a list of one number. -/
def hookOfOne : DomainEvent :=
  .hook ⟨"", ⟨"", none, false⟩, .array [.whole 1], ⟨⟨2024, 3, 5⟩, 6, 7, 8, 0⟩⟩

/-- What a hook is made of that forwards a list of one number. -/
def forwardsOne? : DomainEvent → Option (String × HookTarget × Int × Time.Instant)
  | .hook ⟨hookType, target, .array [.whole n], occurAt⟩ => some (hookType, target, n, occurAt)
  | _ => none

theorem round_trip_hook :
    read "[\"hook\",[\"\",[\"\",null,false],[1],\"2024-03-05T08:07:08+02:00\"]]" =
        some hookOfOne ∧
      read hookOfOne.toValue.compact = some hookOfOne ∧
      (read hookOfOne.toValue.compact).map (·.toValue.compact) = some hookOfOne.toValue.compact := by
  have given : read "[\"hook\",[\"\",[\"\",null,false],[1],\"2024-03-05T08:07:08+02:00\"]]" =
      some hookOfOne := by
    have parts : (read
        "[\"hook\",[\"\",[\"\",null,false],[1],\"2024-03-05T08:07:08+02:00\"]]").bind forwardsOne? =
          some ("", ⟨"", none, false⟩, 1, ⟨⟨2024, 3, 5⟩, 6, 7, 8, 0⟩) := by
      decide +kernel
    obtain ⟨e, understood, parts⟩ := Option.bind_eq_some_iff.mp parts
    unfold forwardsOne? at parts
    split at parts
    · cases parts
      exact understood
    · cases parts
  have whole : ∀ v ∈ hookOfOne.payload?, v.isWhole = true := by
    rintro _ ⟨rfl⟩
    rfl
  have shallow : ∀ v ∈ hookOfOne.payload?, v.depth ≤ HookEvent.payloadRoom := by
    rintro _ ⟨rfl⟩
    decide
  exact ⟨given, (round_trip given whole).1 shallow⟩

/-! Deeper payloads. -/

/-- A hook with its payload wrapped. -/
def wrapping (e : HookEvent) : Value :=
  envelope .hook (e.around (.object [(wrapperName, .string e.payload.compact)]))

theorem read_around {e : HookEvent} (valid : e.Valid) {outer : Value} (whole : outer.isWhole = true)
    (kept : (ofValue outer).value? HookEvent.payloadRoom = some e.payload) :
    read (envelope .hook (e.around outer)).compact = some (.hook e) := by
  have wholly : (envelope .hook (e.around outer)).isWhole = true := by
    simp [envelope, HookEvent.around, Value.isWhole, Value.membersAreWhole, HookTarget.toValue,
      instantValue, whole]
  have data := HookEvent.ofDocument_around valid outer
  rw [kept] at data
  rw [read, Value.read_compact wholly, Option.bind_some, ofDocument_envelope, ofData, data]
  rfl

theorem read_wrapping {e : HookEvent} (valid : e.Valid) (whole : e.payload.isWhole = true)
    (shallow : e.payload.depth ≤ depthLimit) : read (wrapping e).compact = some (.hook e) := by
  have payload := value?_wrapper whole valid.payload (depthLimit - 3)
  rw [if_pos shallow] at payload
  exact read_around valid rfl payload

/-- Brackets in brackets, with nothing in the innermost. -/
def nested : Nat → Value
  | 0 => .array []
  | n + 1 => .array [nested n]

theorem depth_nested (n : Nat) : (nested n).depth = n + 1 := by
  induction n with
  | zero => rfl
  | succ n ih => simp [nested, Value.depth, Value.depths, ih]

theorem kept_nested (n : Nat) : (nested n).Kept := by
  induction n with
  | zero => trivial
  | succ n ih => exact ⟨ih, trivial⟩

theorem isWhole_nested (n : Nat) : (nested n).isWhole = true := by
  induction n with
  | zero => rfl
  | succ n ih => simpa [nested, Value.isWhole, Value.areWhole] using ih

/-- More brackets than a payload may have. -/
def deepHook : HookEvent :=
  ⟨"", ⟨"", none, false⟩, nested 125, ⟨⟨2024, 3, 5⟩, 6, 7, 8, 0⟩⟩

theorem deep_payload_refused :
    read (wrapping deepHook).compact = some (.hook deepHook) ∧
      (∀ v ∈ (hook deepHook).payload?, v.isWhole = true) ∧
      read (hook deepHook).toValue.compact = none := by
  have valid : deepHook.Valid := ⟨kept_nested 125, by decide⟩
  have whole : ∀ v ∈ (hook deepHook).payload?, v.isWhole = true := by
    rintro _ ⟨rfl⟩
    exact isWhole_nested 125
  have depth : deepHook.payload.depth = 126 := depth_nested 125
  refine ⟨?_, whole, ?_⟩
  · exact read_wrapping valid (whole _ rfl) (by rw [depth]; decide)
  · refine (read_compact (show (hook deepHook).Valid from valid) whole).trans (if_neg fun fits => ?_)
    have shallow := fits _ rfl
    rw [depth] at shallow
    exact absurd shallow (by decide)

end DomainEvent

end ProjectDesk
