/-!
What can go wrong in the request store.
-/

namespace ProjectDesk

inductive StoreError where
  /-- A live request has the name already. -/
  | nameTaken
  | rowNotFound
  | closed
  | timedOut
  | malformed (detail : String)
  /-- What is kept in the column is no time. -/
  | notATime (column text : String)
  deriving DecidableEq, Repr

namespace StoreError

def message : StoreError → String
  | .nameTaken =>
      "error returned from database: (code: 2067) UNIQUE constraint failed: requests.name"
  | .rowNotFound => "no rows returned by a query that expected to return at least one row"
  | .closed => "attempted to acquire a connection on a closed pool"
  | .timedOut => "pool timed out while waiting for an open connection"
  | .malformed detail => "encountered unexpected or invalid data: " ++ detail
  | .notATime column text =>
      "error occurred while decoding column \"" ++ column ++ "\": invalid datetime: " ++ text

end StoreError

/-- The schema could not be brought up to date. -/
structure MigrationError where
  beneath : StoreError
  deriving DecidableEq, Repr

def MigrationError.message (e : MigrationError) : String :=
  "while executing migrations: " ++ e.beneath.message

end ProjectDesk
