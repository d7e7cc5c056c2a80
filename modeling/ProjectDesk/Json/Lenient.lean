import ProjectDesk.Json.Record

/-!
Reading documents leniently: what is missing, null or of another kind counts as empty, zero or
false.
-/

namespace ProjectDesk.Json.Lenient

def membersOf : Document → List (String × Document)
  | .object members => members.filterMap fun (name, d) => (text? name).map (·, d)
  | _ => []

def itemsOf : Document → List Document
  | .array items => items
  | _ => []

def stringOf (d : Document) : String :=
  d.string?.getD ""

def wholeOf : Document → Int
  | .number n =>
      match n.number? with
      | some (.whole value) => value
      | _ => 0
  | _ => 0

/-- Whether a member is there at all, be it null. -/
def has (d : Document) (name : String) : Bool :=
  (membersOf d).any (·.1 == name)

/-- A member that is there and not null. -/
def get? (d : Document) (name : String) : Option Document :=
  match (membersOf d).lookup name with
  | some .null => none
  | member => member

def str? (d : Document) (name : String) : Option String := (get? d name).map stringOf

def str (d : Document) (name : String) : String := (str? d name).getD ""

def int? (d : Document) (name : String) : Option Int := (get? d name).map wholeOf

def int (d : Document) (name : String) : Int := (int? d name).getD 0

def nat? (d : Document) (name : String) : Option Nat := (int? d name).map Int.toNat

def nat (d : Document) (name : String) : Nat := (nat? d name).getD 0

def bool (d : Document) (name : String) : Bool := ((get? d name).bind Document.bool?).getD false

def list (d : Document) (name : String) : List Document := ((get? d name).map itemsOf).getD []

def strings (d : Document) (name : String) : List String := (list d name).map stringOf

/-- A member that is an object, or an empty one. -/
def part (d : Document) (name : String) : Document := (get? d name).getD (.object [])

end ProjectDesk.Json.Lenient
