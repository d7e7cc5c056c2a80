import ProjectDesk.Workflow.Decision
import ProjectDesk.Workflow.Lifecycle

/-!
What may be ordered to be done with requests, and the operation that does it.
-/

namespace ProjectDesk

/-- A request that is to be decided, how, and on whose behalf. -/
structure Ruling where
  operator : String
  request : Request
  decision : Status

/-- What is announced once the decision is written. -/
def Ruling.announcement (x : Ruling) : Announcement :=
  match x.decision with
  | .rejected => .rejected (.ofRequest x.request x.operator)
  | _ => .approved (.ofRequest x.request x.operator)

namespace Workflow

/-- What may be ordered: any operation on requests, and that an owner be renamed. -/
inductive Order where
  | create (draft : Draft)
  | get (ref : RequestRef) (withOwner : Bool)
  | getByName (name : String) (withOwner : Bool)
  | isThere (ref : RequestRef)
  | list (q : Query) (withOwner : Bool)
  | count (q : Query)
  | approve (operator : String) (r : Request)
  | reject (operator : String) (r : Request)
  | delete (id : Int)
  | renameOwner (ownerId : Int) (ownerName : String)

namespace Order

abbrev Result : Order → Type
  | .create _ => Int
  | .get _ _ | .getByName _ _ => Request
  | .isThere _ => Bool
  | .list _ _ => List Request
  | .count _ | .renameOwner _ _ => Nat
  | .approve _ _ | .reject _ _ | .delete _ => Unit

def operation : (o : Order) → Operation o.Result
  | .create draft => Workflow.create draft
  | .get ref withOwner => Workflow.get ref withOwner
  | .getByName name withOwner => Workflow.getByName name withOwner
  | .isThere ref => Workflow.isThere ref
  | .list q withOwner => Workflow.list q withOwner
  | .count q => Workflow.count q
  | .approve operator r => Workflow.approve operator r
  | .reject operator r => Workflow.reject operator r
  | .delete id => Workflow.delete id
  | .renameOwner ownerId ownerName => Operation.statement (.renameOwner ownerId ownerName)

def ruling? : Order → Option Ruling
  | .approve operator r => some ⟨operator, r, .approved⟩
  | .reject operator r => some ⟨operator, r, .rejected⟩
  | _ => none

end Order

end Workflow
end ProjectDesk
