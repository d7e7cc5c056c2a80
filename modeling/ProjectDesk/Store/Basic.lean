import ProjectDesk.Store.Error
import ProjectDesk.Store.Query
import ProjectDesk.Text.Cut
import ProjectDesk.Text.Decimal
import ProjectDesk.Request.Name

/-!
The request store. Ids count up and are never given twice, and the name of a live request is
its own. Rows are never removed: deleting turns a live row into a tombstone under a name that
frees the old one.
-/

namespace ProjectDesk

structure Store where
  rows : List Request := []
  /-- The greatest id given so far. -/
  issued : Nat := 0
  deriving DecidableEq, Repr

namespace Store

def liveNamed (name : String) (r : Request) : Bool :=
  !r.deleted && r.name == name

def liveAt (id : Int) (r : Request) : Bool :=
  !r.deleted && r.id == id

def insert (draft : Draft) (now : Time.Instant) (s : Store) : Except StoreError Request × Store :=
  if s.rows.any (liveNamed draft.name) then (.error .nameTaken, s)
  else
    let row : Request :=
      { id := s.issued + 1, ownerId := draft.ownerId, ownerName := draft.ownerName,
        name := draft.name, status := .notDetermined, deleted := false,
        createdAt := .instant now, updatedAt := .instant now }
    (.ok row, ⟨s.rows ++ [row], s.issued + 1⟩)

def findLive (id : Int) (s : Store) : Option Request :=
  s.rows.find? (liveAt id)

/-- Tombstones included. -/
def findAny (id : Int) (s : Store) : Option Request :=
  s.rows.find? (·.id == id)

def findNamed (name : String) (s : Store) : Option Request :=
  s.rows.find? (liveNamed name)

def list (q : Query) (s : Store) : List Request :=
  q.cutPage (q.sorted s.rows)

def count (q : Query) (s : Store) : Nat :=
  s.rows.countP q.selects

/-- Changes the rows that pass the test, and tells how many these are. -/
def update (test : Request → Bool) (change : Request → Request) (s : Store) : Nat × Store :=
  (s.rows.countP test, { s with rows := s.rows.map fun r => if test r then change r else r })

/-- Only a live request that still has the first status takes the second. -/
def transition (id : Int) (before after : Status) (now : Time.Instant) (s : Store) : Nat × Store :=
  s.update (fun r => liveAt id r && r.status == before)
    fun r => { r with status := after, updatedAt := .instant now }

/-- Brings the owner's display name up to date on the live requests that show another. -/
def renameOwner (ownerId : Int) (ownerName : String) (s : Store) : Nat × Store :=
  s.update (fun r => !r.deleted && r.ownerId == ownerId && r.ownerName != ownerName)
    fun r => { r with ownerName := ownerName }

def tombstoneName (name : String) (id : Int) : String :=
  Text.cutToFit name ("#" ++ Text.decimal id) nameLimit

def tombstone (now : Time.Instant) (r : Request) : Request :=
  { r with deleted := true, name := tombstoneName r.name r.id, updatedAt := .instant now }

/-- The tombstone, if there was a live request. -/
def softDelete (id : Int) (now : Time.Instant) (s : Store) : Option Request × Store :=
  match s.findLive id with
  | none => (none, s)
  | some row => (some (tombstone now row), (s.update (liveAt id) (tombstone now)).2)

end Store
end ProjectDesk
