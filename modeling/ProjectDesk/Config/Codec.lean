import ProjectDesk.Config.Basic
import ProjectDesk.Json.Reader
import ProjectDesk.Json.Record
import ProjectDesk.Json.Printer

/-!
The configuration as JSON. Every field can be left out, and then has its default.
-/

namespace ProjectDesk

open Json

namespace EmailConfig

def fieldNames : List String :=
  ["host", "port", "identity", "username", "password", "from", "ssl", "insecure"]

def ofDocument (d : Document) : Option EmailConfig := do
  let fields ← d.fields? fieldNames
  let host ← fields.withDefault "host" Document.string? ""
  let port ← fields.withDefault "port" (Document.natural? .unsigned16) 25
  let identity ← fields.withDefault "identity" Document.string? ""
  let username ← fields.withDefault "username" Document.string? ""
  let password ← fields.withDefault "password" Document.string? ""
  let sender ← fields.withDefault "from" Document.string? ""
  let ssl ← fields.withDefault "ssl" Document.bool? false
  let insecure ← fields.withDefault "insecure" Document.bool? false
  some { host, port, identity, username, password, sender, ssl, insecure }

def toValue (c : EmailConfig) : Value :=
  .object [("host", .string c.host), ("port", .whole c.port), ("identity", .string c.identity),
    ("username", .string c.username), ("password", .string c.password),
    ("from", .string c.sender), ("ssl", .bool c.ssl), ("insecure", .bool c.insecure)]

end EmailConfig

namespace QuotaConfig

def fieldNames : List String := ["quota_per_project_enabled", "storage_per_project"]

def ofDocument (d : Document) : Option QuotaConfig := do
  let fields ← d.fields? fieldNames
  let enabledPerProject ← fields.withDefault "quota_per_project_enabled" Document.bool? true
  let storagePerProject ← fields.withDefault "storage_per_project" (Document.whole? .signed64) (-1)
  some { enabledPerProject, storagePerProject }

def toValue (c : QuotaConfig) : Value :=
  .object [("quota_per_project_enabled", .bool c.enabledPerProject),
    ("storage_per_project", .whole c.storagePerProject)]

end QuotaConfig

namespace ArtifactEventConfig

def fieldNames : List String := ["pull_time_update_disabled", "pull_count_update_disabled"]

def ofDocument (d : Document) : Option ArtifactEventConfig := do
  let fields ← d.fields? fieldNames
  let pullTimeDisabled ← fields.withDefault "pull_time_update_disabled" Document.bool? false
  let pullCountDisabled ← fields.withDefault "pull_count_update_disabled" Document.bool? false
  some { pullTimeDisabled, pullCountDisabled }

def toValue (c : ArtifactEventConfig) : Value :=
  .object [("pull_time_update_disabled", .bool c.pullTimeDisabled),
    ("pull_count_update_disabled", .bool c.pullCountDisabled)]

end ArtifactEventConfig

namespace DispatcherConfig

def fieldNames : List String :=
  ["handler_timeout_secs", "max_concurrent_handlers", "failure_history"]

def ofDocument (d : Document) : Option DispatcherConfig := do
  let fields ← d.fields? fieldNames
  let handlerTimeoutSecs ←
    fields.withDefault "handler_timeout_secs" (Document.natural? .unsigned64) 60
  let maxConcurrentHandlers ←
    fields.withDefault "max_concurrent_handlers" (Document.natural? .unsigned64) 32
  let failureHistory ← fields.withDefault "failure_history" (Document.natural? .unsigned64) 1000
  some { handlerTimeoutSecs, maxConcurrentHandlers, failureHistory }

def toValue (c : DispatcherConfig) : Value :=
  .object [("handler_timeout_secs", .whole c.handlerTimeoutSecs),
    ("max_concurrent_handlers", .whole c.maxConcurrentHandlers),
    ("failure_history", .whole c.failureHistory)]

end DispatcherConfig

namespace JobServiceConfig

def fieldNames : List String := ["url", "secret"]

def ofDocument (d : Document) : Option JobServiceConfig := do
  let fields ← d.fields? fieldNames
  let url ← fields.withDefault "url" (Document.nullable? Document.string?) none
  let secret ← fields.withDefault "secret" (Document.nullable? Document.string?) none
  some { url, secret }

def toValue (c : JobServiceConfig) : Value :=
  .object [("url", Value.orNull .string c.url), ("secret", Value.orNull .string c.secret)]

end JobServiceConfig

namespace Config

def fieldNames : List String :=
  ["config_version", "product_name", "email", "quota", "artifact_events", "dispatcher",
    "job_service"]

def ofDocument (d : Document) : Option Config := do
  let fields ← d.fields? fieldNames
  let configVersion ← fields.withDefault "config_version" Document.string? "v1"
  let productName ← fields.withDefault "product_name" Document.string? "HyperRegistry"
  let email ← fields.withDefault "email" EmailConfig.ofDocument {}
  let quota ← fields.withDefault "quota" QuotaConfig.ofDocument {}
  let artifactEvents ← fields.withDefault "artifact_events" ArtifactEventConfig.ofDocument {}
  let dispatcher ← fields.withDefault "dispatcher" DispatcherConfig.ofDocument {}
  let jobService ← fields.withDefault "job_service" JobServiceConfig.ofDocument {}
  some { configVersion, productName, email, quota, artifactEvents, dispatcher, jobService }

def toValue (c : Config) : Value :=
  .object [("config_version", .string c.configVersion), ("product_name", .string c.productName),
    ("email", c.email.toValue), ("quota", c.quota.toValue),
    ("artifact_events", c.artifactEvents.toValue), ("dispatcher", c.dispatcher.toValue),
    ("job_service", c.jobService.toValue)]

def read (text : String) : Option Config :=
  (Json.read text).bind ofDocument

end Config
end ProjectDesk
