import ProjectDesk.Request.Basic
import ProjectDesk.Text.Blank
import ProjectDesk.Text.Like

/-!
Listing requests: which are wanted, in what order, and which page of them.
-/

namespace ProjectDesk

inductive SortOrder where
  | createdAtAsc
  | createdAtDesc
  | nameAsc
  | nameDesc
  deriving DecidableEq, Repr

namespace SortOrder

def name : SortOrder → String
  | .createdAtAsc => "CreatedAtAsc"
  | .createdAtDesc => "CreatedAtDesc"
  | .nameAsc => "NameAsc"
  | .nameDesc => "NameDesc"

def ofName? (s : String) : Option SortOrder :=
  [createdAtAsc, createdAtDesc, nameAsc, nameDesc].find? (·.name == s)

/-- The ordering clause that stands for the sort in a query. -/
def clause : SortOrder → String
  | .createdAtAsc => "created_at ASC, id ASC"
  | .createdAtDesc => "created_at DESC, id DESC"
  | .nameAsc => "name ASC"
  | .nameDesc => "name DESC"

/-- The value of a `sort` parameter: a field, with a hyphen before it for descending order. -/
def ofParameter? (s : String) : Option SortOrder :=
  let word := Text.trim s
  if word = "created_at" || word = "creation_time" then some .createdAtAsc
  else if word = "-created_at" || word = "-creation_time" then some .createdAtDesc
  else if word = "name" then some .nameAsc
  else if word = "-name" then some .nameDesc
  else none

/-- In the order of the texts that the times are kept as; requests of one text go by id. -/
def createdBefore (a b : Request) : Bool :=
  if a.createdAt.text = b.createdAt.text then a.id ≤ b.id
  else decide (a.createdAt.text ≤ b.createdAt.text)

def nameBefore (a b : Request) : Bool :=
  decide (a.name ≤ b.name)

/-- Whether the first request may stand before the second. -/
def before : SortOrder → Request → Request → Bool
  | .createdAtAsc, a, b => createdBefore a b
  | .createdAtDesc, a, b => createdBefore b a
  | .nameAsc, a, b => nameBefore a b
  | .nameDesc, a, b => nameBefore b a

end SortOrder

structure Query where
  name : Option String := none
  nameContains : Option String := none
  /-- Any of these names; no names here mean any name at all. -/
  names : List String := []
  ownerId : Option Int := none
  ownerName : Option String := none
  status : Option Status := none
  page : Option Int := none
  pageSize : Option Int := none
  sort : SortOrder := .createdAtDesc
  deriving DecidableEq, Repr

namespace Query

def agrees [DecidableEq α] (wanted : Option α) (a : α) : Bool :=
  match wanted with
  | none => true
  | some w => w = a

def nameHolds (fragment : Option String) (name : String) : Bool :=
  match fragment with
  | none => true
  | some f => Text.like name (Text.holding f)

/-- Tombstones are never selected. -/
def selects (q : Query) (r : Request) : Bool :=
  !r.deleted && agrees q.name r.name && nameHolds q.nameContains r.name &&
    (q.names.isEmpty || q.names.contains r.name) && agrees q.ownerId r.ownerId &&
    agrees q.ownerName r.ownerName && agrees q.status r.status

/-- How many to take and how many to pass over first. Without a size there are no pages, and
the first page stands in for pages before it. The number passed over is one of 64 bits; here it
is counted without a bound, and stands for it only where it fits. -/
def window (q : Query) : Option (Nat × Nat) :=
  match q.pageSize with
  | none => none
  | some size =>
      if 0 < size then some (size.toNat, ((max (q.page.getD 1) 1 - 1) * size).toNat) else none

def cutPage (q : Query) (rows : List Request) : List Request :=
  match q.window with
  | none => rows
  | some (size, passed) => (rows.drop passed).take size

def sorted (q : Query) (rows : List Request) : List Request :=
  (rows.filter q.selects).mergeSort q.sort.before

end Query
end ProjectDesk
