import ProjectDesk.Proofs.Config.Loading
import ProjectDesk.Proofs.Json.Overlay

/-!
A configuration of which a part is written is the default with that part in place of its own,
field by field, in each section as in the whole. The defaults that the fields of a section have
when it is read are the ones that the section has when it is left out.
-/

namespace ProjectDesk

open Json Json.Document

variable {d : Document} {members : List (String × Document)}

namespace EmailConfig

structure Overlaid (members : List (String × Document)) (base c : EmailConfig) : Prop where
  host : Json.Overlaid members "host" IsText base.host c.host
  port : Json.Overlaid members "port" (IsNatural .unsigned16) base.port c.port
  identity : Json.Overlaid members "identity" IsText base.identity c.identity
  username : Json.Overlaid members "username" IsText base.username c.username
  password : Json.Overlaid members "password" IsText base.password c.password
  sender : Json.Overlaid members "from" IsText base.sender c.sender
  ssl : Json.Overlaid members "ssl" IsBool base.ssl c.ssl
  insecure : Json.Overlaid members "insecure" IsBool base.insecure c.insecure

theorem ofDocument_of_partWritten {c : EmailConfig} (h : PartWritten Overlaid {} d c) :
    ofDocument d = some c := by
  obtain ⟨written, members, rfl, named, h⟩ := h
  have fields : (Document.object written).fields? fieldNames = _ := fields?_object named (by
    simp [fieldNames, h.host.length_le, h.port.length_le, h.identity.length_le,
      h.username.length_le, h.password.length_le, h.sender.length_le, h.ssl.length_le,
      h.insecure.length_le])
  rw [ofDocument, fields]
  simp [fieldNames, h.host.withDefault_eq string?_of_isText,
    h.port.withDefault_eq (natural?_of_isNatural (by decide)),
    h.identity.withDefault_eq string?_of_isText, h.username.withDefault_eq string?_of_isText,
    h.password.withDefault_eq string?_of_isText, h.sender.withDefault_eq string?_of_isText,
    h.ssl.withDefault_eq bool?_of_isBool, h.insecure.withDefault_eq bool?_of_isBool]

end EmailConfig

namespace QuotaConfig

structure Overlaid (members : List (String × Document)) (base c : QuotaConfig) : Prop where
  enabledPerProject : Json.Overlaid members "quota_per_project_enabled" IsBool
    base.enabledPerProject c.enabledPerProject
  storagePerProject : Json.Overlaid members "storage_per_project" (IsWhole .signed64)
    base.storagePerProject c.storagePerProject

theorem ofDocument_of_partWritten {c : QuotaConfig} (h : PartWritten Overlaid {} d c) :
    ofDocument d = some c := by
  obtain ⟨written, members, rfl, named, h⟩ := h
  have fields : (Document.object written).fields? fieldNames = _ := fields?_object named (by
    simp [fieldNames, h.enabledPerProject.length_le, h.storagePerProject.length_le])
  rw [ofDocument, fields]
  simp [fieldNames, h.enabledPerProject.withDefault_eq bool?_of_isBool,
    h.storagePerProject.withDefault_eq whole?_of_isWhole]

end QuotaConfig

namespace ArtifactEventConfig

structure Overlaid (members : List (String × Document)) (base c : ArtifactEventConfig) : Prop where
  pullTimeDisabled : Json.Overlaid members "pull_time_update_disabled" IsBool
    base.pullTimeDisabled c.pullTimeDisabled
  pullCountDisabled : Json.Overlaid members "pull_count_update_disabled" IsBool
    base.pullCountDisabled c.pullCountDisabled

theorem ofDocument_of_partWritten {c : ArtifactEventConfig} (h : PartWritten Overlaid {} d c) :
    ofDocument d = some c := by
  obtain ⟨written, members, rfl, named, h⟩ := h
  have fields : (Document.object written).fields? fieldNames = _ := fields?_object named (by
    simp [fieldNames, h.pullTimeDisabled.length_le, h.pullCountDisabled.length_le])
  rw [ofDocument, fields]
  simp [fieldNames, h.pullTimeDisabled.withDefault_eq bool?_of_isBool,
    h.pullCountDisabled.withDefault_eq bool?_of_isBool]

end ArtifactEventConfig

namespace DispatcherConfig

structure Overlaid (members : List (String × Document)) (base c : DispatcherConfig) : Prop where
  handlerTimeoutSecs : Json.Overlaid members "handler_timeout_secs" (IsNatural .unsigned64)
    base.handlerTimeoutSecs c.handlerTimeoutSecs
  maxConcurrentHandlers : Json.Overlaid members "max_concurrent_handlers" (IsNatural .unsigned64)
    base.maxConcurrentHandlers c.maxConcurrentHandlers
  failureHistory : Json.Overlaid members "failure_history" (IsNatural .unsigned64)
    base.failureHistory c.failureHistory

theorem ofDocument_of_partWritten {c : DispatcherConfig} (h : PartWritten Overlaid {} d c) :
    ofDocument d = some c := by
  obtain ⟨written, members, rfl, named, h⟩ := h
  have fields : (Document.object written).fields? fieldNames = _ := fields?_object named (by
    simp [fieldNames, h.handlerTimeoutSecs.length_le, h.maxConcurrentHandlers.length_le,
      h.failureHistory.length_le])
  have natural {d : Document} {n : Nat} : d.IsNatural .unsigned64 n → _ :=
    natural?_of_isNatural (by decide)
  rw [ofDocument, fields]
  simp [fieldNames, h.handlerTimeoutSecs.withDefault_eq natural,
    h.maxConcurrentHandlers.withDefault_eq natural, h.failureHistory.withDefault_eq natural]

end DispatcherConfig

namespace JobServiceConfig

structure Overlaid (members : List (String × Document)) (base c : JobServiceConfig) : Prop where
  url : Json.Overlaid members "url" IsTextOrNull base.url c.url
  secret : Json.Overlaid members "secret" IsTextOrNull base.secret c.secret

theorem ofDocument_of_partWritten {c : JobServiceConfig} (h : PartWritten Overlaid {} d c) :
    ofDocument d = some c := by
  obtain ⟨written, members, rfl, named, h⟩ := h
  have fields : (Document.object written).fields? fieldNames = _ := fields?_object named (by
    simp [fieldNames, h.url.length_le, h.secret.length_le])
  rw [ofDocument, fields]
  simp [fieldNames, h.url.withDefault_eq nullable?_of_isTextOrNull,
    h.secret.withDefault_eq nullable?_of_isTextOrNull]

end JobServiceConfig

namespace Config

/-- A section that is not written is the base's, and one that is written is overlaid in turn. -/
structure Overlaid (members : List (String × Document)) (base c : Config) : Prop where
  configVersion : Json.Overlaid members "config_version" IsText
    base.configVersion c.configVersion
  productName : Json.Overlaid members "product_name" IsText base.productName c.productName
  email : Json.Overlaid members "email" (PartWritten EmailConfig.Overlaid base.email)
    base.email c.email
  quota : Json.Overlaid members "quota" (PartWritten QuotaConfig.Overlaid base.quota)
    base.quota c.quota
  artifactEvents : Json.Overlaid members "artifact_events"
    (PartWritten ArtifactEventConfig.Overlaid base.artifactEvents)
    base.artifactEvents c.artifactEvents
  dispatcher : Json.Overlaid members "dispatcher"
    (PartWritten DispatcherConfig.Overlaid base.dispatcher) base.dispatcher c.dispatcher
  jobService : Json.Overlaid members "job_service"
    (PartWritten JobServiceConfig.Overlaid base.jobService) base.jobService c.jobService

theorem ofDocument_of_partWritten {c : Config} (h : PartWritten Overlaid {} d c) :
    ofDocument d = some c := by
  obtain ⟨written, members, rfl, named, h⟩ := h
  have fields : (Document.object written).fields? fieldNames = _ := fields?_object named (by
    simp [fieldNames, h.configVersion.length_le, h.productName.length_le, h.email.length_le,
      h.quota.length_le, h.artifactEvents.length_le, h.dispatcher.length_le,
      h.jobService.length_le])
  rw [ofDocument, fields]
  simp [fieldNames, h.configVersion.withDefault_eq string?_of_isText,
    h.productName.withDefault_eq string?_of_isText,
    h.email.withDefault_eq EmailConfig.ofDocument_of_partWritten,
    h.quota.withDefault_eq QuotaConfig.ofDocument_of_partWritten,
    h.artifactEvents.withDefault_eq ArtifactEventConfig.ofDocument_of_partWritten,
    h.dispatcher.withDefault_eq DispatcherConfig.ofDocument_of_partWritten,
    h.jobService.withDefault_eq JobServiceConfig.ofDocument_of_partWritten]

/-- A text that writes a part of a configuration gives the default with that part in place of its
own, if this passes the check. No text gives what does not pass it. -/
theorem ofText_overlaid (text : String) :
    (∀ d c, Json.read text = some d → PartWritten Overlaid {} d c →
      (c.check = .ok () → ofText text = (c, [])) ∧
      ∀ fault, c.check = .error fault → ofText text = ({}, [.rejected fault])) ∧
    (ofText text).1.check = .ok () := by
  refine ⟨?_, (sound_ofText text).2⟩
  intro d c parsed part
  have read : read text = some c := by
    rw [Config.read, parsed, Option.bind_some, ofDocument_of_partWritten part]
  refine ⟨fun valid => ?_, fun fault faulty => ?_⟩
  · simp only [ofText, read, valid]
  · simp only [ofText, read, faulty]

theorem ofText_overlaid_name :
    let text := "\x7b\"x\":null,\"dispatcher\":\x7b\"failure_history\":5,\"y\":[]\x7d," ++
      "\"product_name\":\"Desk\"\x7d"
    let c : Config := { productName := "Desk", dispatcher := { failureHistory := 5 } }
    ofText text = (c, []) ∧ (ofText text).1.check = .ok () := by
  intro text c
  let part : Value := .object [("failure_history", .whole 5), ("y", .array [])]
  let whole : Value :=
    .object [("x", .null), ("dispatcher", part), ("product_name", .string "Desk")]
  have parsed : Json.read text = some (ofValue whole) := by
    have same : text = whole.compact := by decide +kernel
    rw [same, Value.read_compact rfl]
  have dispatcher : PartWritten DispatcherConfig.Overlaid {} (ofValue part) c.dispatcher := by
    refine ⟨_, _, rfl, byName?_ofMembers _, ?_⟩
    constructor
    · exact .unwritten (by simp [under])
    · exact .unwritten (by simp [under])
    · exact .written (by simp [under]) ⟨ofValue_whole 5, by decide⟩
  obtain ⟨overlays, passes⟩ := ofText_overlaid text
  refine ⟨(overlays _ c parsed ⟨_, _, rfl, byName?_ofMembers _, ?_⟩).1 rfl, passes⟩
  constructor
  · exact .unwritten (by simp [under])
  · exact .written (by simp [under, ofValue]) ⟨_, rfl, text?_textItems "Desk"⟩
  · exact .unwritten (by simp [under])
  · exact .unwritten (by simp [under])
  · exact .unwritten (by simp [under])
  · exact .written (by simp [under]) dispatcher
  · exact .unwritten (by simp [under])

end Config
end ProjectDesk
