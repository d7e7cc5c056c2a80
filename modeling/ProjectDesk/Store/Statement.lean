import ProjectDesk.Store.Basic

/-!
The statements that a database carries out, each at once and as a whole, and the database: a
store that can be closed. A row that is handed out has its times read from the texts they are
kept as.
-/

namespace ProjectDesk

def Time.Stamp.read (column : String) (s : Stamp) : Except StoreError Stamp :=
  match s.instant? with
  | some t => .ok (.instant t)
  | none => .error (.notATime column s.text)

namespace Request

/-- The time of creation is read first. -/
def handOut (r : Request) : Except StoreError Request := do
  let createdAt ← r.createdAt.read "created_at"
  let updatedAt ← r.updatedAt.read "updated_at"
  .ok { r with createdAt, updatedAt }

end Request

inductive Statement where
  | insert (draft : Draft)
  | findLive (id : Int)
  | findAny (id : Int)
  | findNamed (name : String)
  | list (q : Query)
  | count (q : Query)
  | transition (id : Int) (before after : Status)
  | renameOwner (ownerId : Int) (ownerName : String)
  | softDelete (id : Int)
  deriving Repr

namespace Statement

abbrev Result : Statement → Type
  | .insert _ => Request
  | .findLive _ | .findAny _ | .findNamed _ | .softDelete _ => Option Request
  | .list _ => List Request
  | .count _ | .transition _ _ _ | .renameOwner _ _ => Nat

abbrev Answer (s : Statement) : Type :=
  Except StoreError s.Result

def run (now : Time.Instant) (store : Store) : (s : Statement) → s.Answer × Store
  | .insert draft => store.insert draft now
  | .findLive id => ((store.findLive id).mapM Request.handOut, store)
  | .findAny id => ((store.findAny id).mapM Request.handOut, store)
  | .findNamed name => ((store.findNamed name).mapM Request.handOut, store)
  | .list q => ((store.list q).mapM Request.handOut, store)
  | .count q => (.ok (store.count q), store)
  | .transition id before after =>
      let (changed, store) := store.transition id before after now
      (.ok changed, store)
  | .renameOwner ownerId ownerName =>
      let (changed, store) := store.renameOwner ownerId ownerName
      (.ok changed, store)
  | .softDelete id =>
      match (store.findLive id).mapM Request.handOut with
      | .error e => (.error e, store)
      | .ok _ =>
          let (row, store) := store.softDelete id now
          (row.mapM Request.handOut, store)

end Statement

structure Database where
  store : Store := {}
  closed : Bool := false
  deriving DecidableEq, Repr

namespace Database

def perform (now : Time.Instant) (db : Database) (s : Statement) : s.Answer × Database :=
  if db.closed then (.error .closed, db)
  else
    let (answer, store) := s.run now db.store
    (answer, { db with store := store })

/-- Brings the schema up to date, which it is already wherever it can be reached. -/
def migrate (db : Database) : Except MigrationError Unit :=
  if db.closed then .error ⟨.closed⟩ else .ok ()

end Database
end ProjectDesk
