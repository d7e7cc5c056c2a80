import ProjectDesk.Event.Codec
import ProjectDesk.Proofs.Json.Fields
import ProjectDesk.Proofs.Time.Text

/-!
The records of events read back from their values. What a record was read with, its numbers, its
time and its payload, is also fit to be read again.
-/

namespace ProjectDesk

open Json Json.Document

theorem instantOf_ofValue {t : Time.Instant} (valid : t.isValid = true) :
    instantOf (ofValue (instantValue t)) = some t := by
  simp [instantOf, instantValue, Time.Instant.read_text valid]

theorem isValid_of_instantOf {d : Document} {t : Time.Instant} (h : instantOf d = some t) :
    t.isValid = true := by
  obtain ⟨s, -, read⟩ := Option.bind_eq_some_iff.mp h
  exact Time.Instant.isValid_of_read read

namespace Artifact

/-- Could have been read. -/
structure Valid (a : Artifact) : Prop where
  id : Range.signed64.has a.id = true
  repositoryId : Range.signed64.has a.repositoryId = true

theorem valid_of_ofDocument {d : Document} {a : Artifact} (h : ofDocument d = some a) :
    a.Valid := by
  simp only [ofDocument, Option.bind_eq_bind, Option.bind_eq_some_iff, Fields.signed] at h
  obtain ⟨fields, -, id, hid, repositoryId, hrepository, _, -, _, -, same⟩ := h
  cases same
  obtain ⟨_, -, hid⟩ := Fields.exists_of_required hid
  obtain ⟨_, -, hrepository⟩ := Fields.exists_of_required hrepository
  exact ⟨has_of_whole? hid, has_of_whole? hrepository⟩

theorem ofDocument_toValue {a : Artifact} (valid : a.Valid) :
    ofDocument (ofValue a.toValue) = some a := by
  have fields : (ofValue a.toValue).fields? fieldNames = _ := fields?_ofValue rfl (by decide)
  simp [ofDocument, fields, Fields.signed, Fields.string, Fields.required, List.lookup_cons,
    whole?_ofValue valid.id, whole?_ofValue valid.repositoryId]

end Artifact

namespace ArtifactEvent

structure Valid (e : ArtifactEvent) : Prop where
  artifact : e.artifact.Valid
  occurAt : e.occurAt.isValid = true

theorem valid_of_ofDocument {d : Document} {e : ArtifactEvent} (h : ofDocument d = some e) :
    e.Valid := by
  simp only [ofDocument, Option.bind_eq_bind, Option.bind_eq_some_iff] at h
  obtain ⟨fields, -, _, -, artifact, ha, _, -, _, -, occurAt, ht, same⟩ := h
  cases same
  obtain ⟨_, -, ha⟩ := Fields.exists_of_required ha
  obtain ⟨_, -, ht⟩ := Fields.exists_of_required ht
  exact ⟨Artifact.valid_of_ofDocument ha, isValid_of_instantOf ht⟩

theorem ofDocument_toValue {e : ArtifactEvent} (valid : e.Valid) :
    ofDocument (ofValue e.toValue) = some e := by
  have fields : (ofValue e.toValue).fields? fieldNames = _ := fields?_ofValue rfl (by decide)
  simp [ofDocument, fields, Fields.string, Fields.required, List.lookup_cons,
    Artifact.ofDocument_toValue valid.artifact, instantOf_ofValue valid.occurAt]

end ArtifactEvent

namespace RequestEvent

structure Valid (e : RequestEvent) : Prop where
  requestId : Range.signed64.has e.requestId = true
  ownerId : Range.signed64.has e.ownerId = true
  occurAt : e.occurAt.isValid = true

theorem valid_of_ofDocument {d : Document} {e : RequestEvent} (h : ofDocument d = some e) :
    e.Valid := by
  simp only [ofDocument, Option.bind_eq_bind, Option.bind_eq_some_iff, Fields.signed] at h
  obtain ⟨fields, -, _, -, requestId, hr, _, -, ownerId, ho, _, -, occurAt, ht, same⟩ := h
  cases same
  obtain ⟨_, -, hr⟩ := Fields.exists_of_required hr
  obtain ⟨_, -, ho⟩ := Fields.exists_of_required ho
  obtain ⟨_, -, ht⟩ := Fields.exists_of_required ht
  exact ⟨has_of_whole? hr, has_of_whole? ho, isValid_of_instantOf ht⟩

theorem ofDocument_toValue {e : RequestEvent} (valid : e.Valid) :
    ofDocument (ofValue e.toValue) = some e := by
  have fields : (ofValue e.toValue).fields? fieldNames = _ := fields?_ofValue rfl (by decide)
  simp [ofDocument, fields, Fields.string, Fields.signed, Fields.required, List.lookup_cons,
    whole?_ofValue valid.requestId, whole?_ofValue valid.ownerId, instantOf_ofValue valid.occurAt]

end RequestEvent

theorem HookTarget.ofDocument_toValue (t : HookTarget) :
    ofDocument (ofValue t.toValue) = some t := by
  have fields : (ofValue t.toValue).fields? fieldNames = _ := fields?_ofValue rfl (by decide)
  simp [ofDocument, fields, Fields.string, Fields.bool, Fields.optional, Fields.required,
    List.lookup_cons]

namespace HookEvent

structure Valid (e : HookEvent) : Prop where
  payload : e.payload.Kept
  occurAt : e.occurAt.isValid = true

/-- A payload that was found in the document itself leaves room for its brackets. -/
theorem valid_of_ofDocument {d : Document} {e : HookEvent} (h : ofDocument d = some e) :
    e.Valid ∧ (d.wrapsNothing = true → e.payload.depth ≤ payloadRoom) := by
  simp only [ofDocument, Option.bind_eq_bind, Option.bind_eq_some_iff] at h
  obtain ⟨fields, hf, _, -, _, -, payload, hp, occurAt, ht, same⟩ := h
  cases same
  obtain ⟨inner, there, hp⟩ := Fields.exists_of_required hp
  obtain ⟨_, -, ht⟩ := Fields.exists_of_required ht
  refine ⟨⟨kept_of_value? hp, isValid_of_instantOf ht⟩, fun plain => ?_⟩
  exact depth_le_of_valueWith? (wrapsNothing_field plain hf there) hp

/-- The value of a hook, but for the payload. -/
def around (e : HookEvent) (payload : Value) : Value :=
  .object [("hook_type", .string e.hookType), ("target", e.target.toValue), ("payload", payload),
    ("occur_at", instantValue e.occurAt)]

theorem ofDocument_around {e : HookEvent} (valid : e.Valid) (payload : Value) :
    ofDocument (ofValue (e.around payload)) =
      ((ofValue payload).value? payloadRoom).map ({ e with payload := · }) := by
  have fields : (ofValue (e.around payload)).fields? fieldNames = _ :=
    fields?_ofValue rfl (by decide)
  cases kept : (ofValue payload).value? payloadRoom
  all_goals
    simp [ofDocument, fields, Fields.string, Fields.required, List.lookup_cons, kept,
      HookTarget.ofDocument_toValue, instantOf_ofValue valid.occurAt]

theorem ofDocument_toValue {e : HookEvent} (valid : e.Valid) (whole : e.payload.isWhole = true) :
    ofDocument (ofValue e.toValue) = if e.payload.depth ≤ payloadRoom then some e else none := by
  have read := ofDocument_around valid e.payload
  rw [value?_ofValue whole valid.payload payloadRoom] at read
  exact read.trans (by split <;> rfl)

end HookEvent

end ProjectDesk
