import ProjectDesk.Collaborator.Basic
import ProjectDesk.Json.Record
import ProjectDesk.Json.Printer

/-!
Users, quota references, limits and jobs as JSON.
-/

namespace ProjectDesk

open Json

namespace DirectoryUser

def fieldNames : List String := ["id", "username", "email"]

def ofDocument (d : Document) : Option DirectoryUser := do
  let fields ← d.fields? fieldNames
  let id ← fields.signed "id"
  let username ← fields.string "username"
  let email ← fields.string "email"
  some { id, username, email }

def toValue (u : DirectoryUser) : Value :=
  .object [("id", .whole u.id), ("username", .string u.username), ("email", .string u.email)]

end DirectoryUser

namespace QuotaReference

def fieldNames : List String := ["kind", "id"]

def ofDocument (d : Document) : Option QuotaReference := do
  let fields ← d.fields? fieldNames
  let kind ← fields.required "kind" fun d => d.name?.bind ReferenceKind.ofName?
  let id ← fields.signed "id"
  some { kind, id }

def toValue (r : QuotaReference) : Value :=
  .object [("kind", .string r.kind.name), ("id", .whole r.id)]

end QuotaReference

namespace ResourceLimits

/-- Of a resource that is listed twice the last limit counts; there is no other resource than
storage. -/
def ofMembers : List (List StringItem × Document) → Option ResourceLimits
  | [] => some ⟨none⟩
  | (items, d) :: rest => do
      let name ← text? items
      let limit ← d.whole? .signed64
      let more ← ofMembers rest
      if name = "storage" then some ⟨some (more.storage.getD limit)⟩ else none

def ofDocument : Document → Option ResourceLimits
  | .object members => ofMembers members
  | _ => none

def toValue (l : ResourceLimits) : Value :=
  match l.storage with
  | none => .object []
  | some limit => .object [("storage", .whole limit)]

end ResourceLimits

namespace JobKind

def ofDocument (d : Document) : Option JobKind :=
  d.name?.bind ofName?

def toValue (k : JobKind) : Value :=
  .string k.name

end JobKind

namespace JobSubmission

def fieldNames : List String := ["name", "kind", "parameters"]

/-- Two brackets stand open around a parameter's value. -/
def parameterRoom : Nat := Document.depthLimit - 2

def parametersOf : Document → Option (List (String × Value))
  | .object members => (Document.members? parameterRoom members).map Value.collect
  | _ => none

def ofDocument (d : Document) : Option JobSubmission := do
  let fields ← d.fields? fieldNames
  let name ← fields.string "name"
  let kind ← fields.required "kind" JobKind.ofDocument
  let parameters ← fields.required "parameters" parametersOf
  some { name, kind, parameters }

def toValue (j : JobSubmission) : Value :=
  .object [("name", .string j.name), ("kind", j.kind.toValue), ("parameters", .object j.parameters)]

end JobSubmission
end ProjectDesk
