import ProjectDesk.Config.Codec
import ProjectDesk.Proofs.Json.Fields

/-!
Configurations read back from their values. The numbers of a configuration are of a certain size;
every configuration that was read has numbers that fit, and so has the default.
-/

namespace ProjectDesk

open Json Json.Document

namespace EmailConfig

structure Fits (c : EmailConfig) : Prop where
  port : Range.unsigned16.has c.port = true

theorem fits_of_ofDocument {d : Document} {c : EmailConfig} (h : ofDocument d = some c) :
    c.Fits := by
  simp only [ofDocument, Option.bind_eq_bind, Option.bind_eq_some_iff] at h
  obtain ⟨fields, -, _, -, port, hport, _, -, _, -, _, -, _, -, _, -, _, -, same⟩ := h
  cases same
  constructor
  exact Fields.of_withDefault (P := fun port : Nat => Range.unsigned16.has port = true) hport
    (by decide) fun _ => has_of_natural? (by decide)

theorem ofDocument_toValue {c : EmailConfig} (fits : c.Fits) :
    ofDocument (ofValue c.toValue) = some c := by
  have fields : (ofValue c.toValue).fields? fieldNames = _ := fields?_ofValue rfl (by decide)
  simp [ofDocument, fields, Fields.withDefault, List.lookup_cons,
    natural?_ofValue fits.port (by decide)]

end EmailConfig

namespace QuotaConfig

structure Fits (c : QuotaConfig) : Prop where
  storagePerProject : Range.signed64.has c.storagePerProject = true

theorem fits_of_ofDocument {d : Document} {c : QuotaConfig} (h : ofDocument d = some c) :
    c.Fits := by
  simp only [ofDocument, Option.bind_eq_bind, Option.bind_eq_some_iff] at h
  obtain ⟨fields, -, _, -, storage, hstorage, same⟩ := h
  cases same
  constructor
  exact Fields.of_withDefault (P := fun storage => Range.signed64.has storage = true) hstorage
    (by decide) fun _ => has_of_whole?

theorem ofDocument_toValue {c : QuotaConfig} (fits : c.Fits) :
    ofDocument (ofValue c.toValue) = some c := by
  have fields : (ofValue c.toValue).fields? fieldNames = _ := fields?_ofValue rfl (by decide)
  simp [ofDocument, fields, Fields.withDefault, List.lookup_cons,
    whole?_ofValue fits.storagePerProject]

end QuotaConfig

theorem ArtifactEventConfig.ofDocument_toValue (c : ArtifactEventConfig) :
    ofDocument (ofValue c.toValue) = some c := by
  have fields : (ofValue c.toValue).fields? fieldNames = _ := fields?_ofValue rfl (by decide)
  simp [ofDocument, fields, Fields.withDefault, List.lookup_cons]

namespace DispatcherConfig

structure Fits (c : DispatcherConfig) : Prop where
  handlerTimeoutSecs : Range.unsigned64.has c.handlerTimeoutSecs = true
  maxConcurrentHandlers : Range.unsigned64.has c.maxConcurrentHandlers = true
  failureHistory : Range.unsigned64.has c.failureHistory = true

theorem fits_of_ofDocument {d : Document} {c : DispatcherConfig} (h : ofDocument d = some c) :
    c.Fits := by
  have fits {fields : Fields} {name : String} {default n : Nat}
      (h : fields.withDefault name (Document.natural? .unsigned64) default = some n)
      (small : Range.unsigned64.has default = true) : Range.unsigned64.has n = true :=
    Fields.of_withDefault (P := fun n : Nat => Range.unsigned64.has n = true) h small
      fun _ => has_of_natural? (by decide)
  simp only [ofDocument, Option.bind_eq_bind, Option.bind_eq_some_iff] at h
  obtain ⟨fields, -, _, htimeout, _, hconcurrent, _, hhistory, same⟩ := h
  cases same
  exact ⟨fits htimeout (by decide), fits hconcurrent (by decide), fits hhistory (by decide)⟩

theorem ofDocument_toValue {c : DispatcherConfig} (fits : c.Fits) :
    ofDocument (ofValue c.toValue) = some c := by
  have fields : (ofValue c.toValue).fields? fieldNames = _ := fields?_ofValue rfl (by decide)
  simp [ofDocument, fields, Fields.withDefault, List.lookup_cons,
    natural?_ofValue fits.handlerTimeoutSecs (by decide),
    natural?_ofValue fits.maxConcurrentHandlers (by decide),
    natural?_ofValue fits.failureHistory (by decide)]

end DispatcherConfig

theorem JobServiceConfig.ofDocument_toValue (c : JobServiceConfig) :
    ofDocument (ofValue c.toValue) = some c := by
  have fields : (ofValue c.toValue).fields? fieldNames = _ := fields?_ofValue rfl (by decide)
  simp [ofDocument, fields, Fields.withDefault, List.lookup_cons]

namespace Config

/-- The numbers are of the sizes that their fields can hold. -/
structure Fits (c : Config) : Prop where
  email : c.email.Fits
  quota : c.quota.Fits
  dispatcher : c.dispatcher.Fits

theorem Fits.default : Fits {} :=
  ⟨⟨by decide⟩, ⟨by decide⟩, ⟨by decide, by decide, by decide⟩⟩

theorem fits_of_ofDocument {d : Document} {c : Config} (h : ofDocument d = some c) : c.Fits := by
  simp only [ofDocument, Option.bind_eq_bind, Option.bind_eq_some_iff] at h
  obtain ⟨fields, -, _, -, _, -, _, hemail, _, hquota, _, -, _, hdispatcher, _, -, same⟩ := h
  cases same
  exact ⟨Fields.of_withDefault hemail Fits.default.email fun _ => EmailConfig.fits_of_ofDocument,
    Fields.of_withDefault hquota Fits.default.quota fun _ => QuotaConfig.fits_of_ofDocument,
    Fields.of_withDefault hdispatcher Fits.default.dispatcher
      fun _ => DispatcherConfig.fits_of_ofDocument⟩

theorem ofDocument_toValue {c : Config} (fits : c.Fits) :
    ofDocument (ofValue c.toValue) = some c := by
  have fields : (ofValue c.toValue).fields? fieldNames = _ := fields?_ofValue rfl (by decide)
  simp [ofDocument, fields, Fields.withDefault, List.lookup_cons,
    EmailConfig.ofDocument_toValue fits.email, QuotaConfig.ofDocument_toValue fits.quota,
    ArtifactEventConfig.ofDocument_toValue, DispatcherConfig.ofDocument_toValue fits.dispatcher,
    JobServiceConfig.ofDocument_toValue]

theorem isWhole_toValue (c : Config) : c.toValue.isWhole = true := by
  simp [toValue, EmailConfig.toValue, QuotaConfig.toValue, ArtifactEventConfig.toValue,
    DispatcherConfig.toValue, JobServiceConfig.toValue, Value.isWhole, Value.membersAreWhole,
    Value.whole]

end Config
end ProjectDesk
