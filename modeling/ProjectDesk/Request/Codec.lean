import ProjectDesk.Request.Basic
import ProjectDesk.Store.Query
import ProjectDesk.Event.Codec

/-!
Requests, drafts and queries as JSON.
-/

namespace ProjectDesk

open Json

namespace Status

def ofDocument (d : Document) : Option Status :=
  d.name?.bind ofName?

def toValue (s : Status) : Value :=
  .string s.name

end Status

namespace SortOrder

def ofDocument (d : Document) : Option SortOrder :=
  d.name?.bind ofName?

def toValue (s : SortOrder) : Value :=
  .string s.name

end SortOrder

namespace Request

def fieldNames : List String :=
  ["id", "owner_id", "owner_name", "name", "approval_status", "deleted", "created_at",
    "updated_at"]

def ofDocument (d : Document) : Option Request := do
  let fields ← d.fields? fieldNames
  let id ← fields.signed "id"
  let ownerId ← fields.signed "owner_id"
  let ownerName ← fields.string "owner_name"
  let name ← fields.string "name"
  let status ← fields.required "approval_status" Status.ofDocument
  let deleted ← fields.bool "deleted"
  let createdAt ← fields.required "created_at" instantOf
  let updatedAt ← fields.required "updated_at" instantOf
  some { id, ownerId, ownerName, name, status, deleted, createdAt := .instant createdAt,
         updatedAt := .instant updatedAt }

def stampValue : Time.Stamp → Value
  | .instant t => instantValue t
  | .spelled text => .string text

def toValue (r : Request) : Value :=
  .object [("id", .whole r.id), ("owner_id", .whole r.ownerId),
    ("owner_name", .string r.ownerName), ("name", .string r.name),
    ("approval_status", r.status.toValue), ("deleted", .bool r.deleted),
    ("created_at", stampValue r.createdAt), ("updated_at", stampValue r.updatedAt)]

end Request

namespace Draft

def fieldNames : List String := ["owner_id", "owner_name", "name"]

def ofDocument (d : Document) : Option Draft := do
  let fields ← d.fields? fieldNames
  let ownerId ← fields.signed "owner_id"
  let ownerName ← fields.string "owner_name"
  let name ← fields.string "name"
  some { ownerId, ownerName, name }

def toValue (d : Draft) : Value :=
  .object [("owner_id", .whole d.ownerId), ("owner_name", .string d.ownerName),
    ("name", .string d.name)]

end Draft

namespace Query

def fieldNames : List String :=
  ["name", "name_contains", "names", "owner_id", "owner_name", "approval_status", "page",
    "page_size", "sort"]

def ofDocument (d : Document) : Option Query := do
  let fields ← d.fields? fieldNames
  let name ← fields.optional "name" Document.string?
  let nameContains ← fields.optional "name_contains" Document.string?
  let names ← fields.required "names" (Document.list? Document.string?)
  let ownerId ← fields.optional "owner_id" (Document.whole? .signed64)
  let ownerName ← fields.optional "owner_name" Document.string?
  let status ← fields.optional "approval_status" Status.ofDocument
  let page ← fields.optional "page" (Document.whole? .signed64)
  let pageSize ← fields.optional "page_size" (Document.whole? .signed64)
  let sort ← fields.required "sort" SortOrder.ofDocument
  some { name, nameContains, names, ownerId, ownerName, status, page, pageSize, sort }

def toValue (q : Query) : Value :=
  .object [("name", Value.orNull .string q.name),
    ("name_contains", Value.orNull .string q.nameContains), ("names", .strings q.names),
    ("owner_id", Value.orNull .whole q.ownerId), ("owner_name", Value.orNull .string q.ownerName),
    ("approval_status", Value.orNull Status.toValue q.status),
    ("page", Value.orNull .whole q.page), ("page_size", Value.orNull .whole q.pageSize),
    ("sort", q.sort.toValue)]

end Query
end ProjectDesk
