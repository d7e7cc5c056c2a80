import ProjectDesk.Double.Basic

/-!
JSON values as they are kept: numbers are whole or doubles, and the members of an object have
distinct names in the order in which these first appeared.
-/

namespace ProjectDesk.Json

inductive Number where
  | whole (n : Int)
  | double (x : Double)
  deriving DecidableEq, Repr

inductive Value where
  | null
  | bool (b : Bool)
  | number (n : Number)
  | string (s : String)
  | array (items : List Value)
  | object (members : List (String × Value))
  deriving Repr

namespace Value

def whole (n : Int) : Value :=
  .number (.whole n)

def strings (xs : List String) : Value :=
  .array (xs.map .string)

def orNull (f : α → Value) : Option α → Value
  | none => .null
  | some a => f a

/-- A name that is there already keeps its place and takes the new value. -/
def put (members : List (String × Value)) (name : String) (v : Value) : List (String × Value) :=
  match members with
  | [] => [(name, v)]
  | (n, old) :: rest => if n == name then (n, v) :: rest else (n, old) :: put rest name v

def collect (members : List (String × Value)) : List (String × Value) :=
  members.foldl (fun kept member => put kept member.1 member.2) []

end Value
end ProjectDesk.Json
