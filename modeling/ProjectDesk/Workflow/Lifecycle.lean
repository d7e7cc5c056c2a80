import ProjectDesk.Workflow.Ask

/-!
Making, finding, listing and deleting requests.
-/

namespace ProjectDesk.Workflow

def checkOwner (ownerId : Int) : Except ValidationFault Unit :=
  if 0 < ownerId then .ok () else .error (.ownerNotPositive ownerId)

/-- The owner is looked at before the name, and both before the store. -/
def checkDraft (draft : Draft) : Except ValidationFault Unit :=
  match checkOwner draft.ownerId with
  | .error fault => .error fault
  | .ok () =>
      match checkName draft.name with
      | .error fault => .error (.name fault)
      | .ok () => .ok ()

/-- Gives the id of the new request. -/
def create (draft : Draft) : Operation Int := do
  match checkDraft draft with
  | .error fault => throw (.validation fault)
  | .ok () =>
      match ← Operation.query (.statement (.insert draft)) with
      | .ok row => return row.id
      | .error .nameTaken => throw (.conflict (.nameTaken draft.name))
      | .error e => throw (.database e)

def find (ref : RequestRef) : Operation Request := do
  let found ←
    match ref with
    | .id id => Operation.statement (.findLive id)
    | .name name => Operation.statement (.findNamed name)
  match found with
  | some r => return r
  | none => throw (.notFound (.request ref))

/-- Whether there is one; only other errors are errors. -/
def isThere (ref : RequestRef) : Operation Bool :=
  ExceptT.mk do
    match ← (find ref).run with
    | .ok _ => return .ok true
    | .error (.notFound _) => return .ok false
    | .error e => return .error e

/-- Names found so far, by owner; an owner that is not in the directory has none. -/
abbrev OwnerNames := List (Int × Option String)

/-- Asks for each owner once, in the order of the requests. -/
def askOwners (known : OwnerNames) : List Request → Operation OwnerNames
  | [] => return known
  | r :: rest =>
      if (known.lookup r.ownerId).isSome then askOwners known rest
      else do
        let user ← Operation.call .loadOwner none (.findUser r.ownerId)
        askOwners (known ++ [(r.ownerId, user.map (·.username))]) rest

def withOwnerName (names : OwnerNames) (r : Request) : Request :=
  match (names.lookup r.ownerId).join with
  | some ownerName => { r with ownerName }
  | none => r

/-- The same requests with the owners' present names; the store keeps the old ones. -/
def loadOwners (rows : List Request) : Operation (List Request) := do
  let names ← askOwners [] rows
  return rows.map (withOwnerName names)

def list (q : Query) (withOwner : Bool) : Operation (List Request) := do
  let rows ← Operation.statement (.list q)
  if withOwner then loadOwners rows else return rows

def count (q : Query) : Operation Nat :=
  Operation.statement (.count q)

def get (ref : RequestRef) (withOwner : Bool) : Operation Request := do
  let found ← find ref
  if withOwner then
    let names ← askOwners [] [found]
    return withOwnerName names found
  else return found

def getByName (name : String) (withOwner : Bool) : Operation Request :=
  if name.isEmpty then throw (.validation .nameRequired) else get (.name name) withOwner

/-- Leaves a tombstone and frees the name. -/
def delete (id : Int) : Operation Unit := do
  match ← Operation.statement (.softDelete id) with
  | some _ => return ()
  | none => throw (.notFound (.request (.id id)))

end ProjectDesk.Workflow
