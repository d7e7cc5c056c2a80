import ProjectDesk.Json.Keep
import ProjectDesk.Range

/-!
Reading records and the plain values in their fields. A record is written with named members or
as an array of its fields in order. Unknown members are passed over, whatever their values; no
known member may stand twice.
-/

namespace ProjectDesk.Json

/-- The fields of a record that are there, by name. -/
structure Fields where
  /-- Written with names: then a field that may be null can also be left out. -/
  named : Bool
  given : List (String × Document)

def pickMembers (names : List String) :
    List (List StringItem × Document) → Option (List (String × Document))
  | [] => some []
  | (items, d) :: rest => do
      let name ← text? items
      let picked ← pickMembers names rest
      if !names.contains name then some picked
      else if picked.any (·.1 == name) then none
      else some ((name, d) :: picked)

namespace Fields

def get? (fields : Fields) (name : String) : Option Document :=
  fields.given.lookup name

def required (fields : Fields) (name : String) (decode : Document → Option α) : Option α :=
  match fields.get? name with
  | some d => decode d
  | none => none

def withDefault (fields : Fields) (name : String) (decode : Document → Option α) (default : α) :
    Option α :=
  match fields.get? name with
  | some d => decode d
  | none => some default

end Fields

namespace Document

def fields? (names : List String) : Document → Option Fields
  | .object members => (pickMembers names members).map (⟨true, ·⟩)
  | .array items => if items.length ≤ names.length then some ⟨false, names.zip items⟩ else none
  | _ => none

def bool? : Document → Option Bool
  | .bool b => some b
  | _ => none

def string? : Document → Option String
  | .string items => text? items
  | _ => none

/-- Doubles are refused, also those without a fraction. -/
def whole? (range : Range) : Document → Option Int
  | .number n =>
      match n.number? with
      | some (.whole value) => if range.has value then some value else none
      | _ => none
  | _ => none

def natural? (range : Range) (d : Document) : Option Nat :=
  (d.whole? range).map Int.toNat

def list? (decode : Document → Option α) : Document → Option (List α)
  | .array items => items.mapM decode
  | _ => none

def nullable? (decode : Document → Option α) : Document → Option (Option α)
  | .null => some none
  | d => (decode d).map some

/-- A name alone, or as the only member of an object, with null. -/
def name? : Document → Option String
  | .string items => text? items
  | .object [(items, .null)] => text? items
  | _ => none

end Document

namespace Fields

def optional (fields : Fields) (name : String) (decode : Document → Option α) :
    Option (Option α) :=
  match fields.get? name with
  | some d => d.nullable? decode
  | none => if fields.named then some none else none

def string (fields : Fields) (name : String) : Option String :=
  fields.required name Document.string?

def bool (fields : Fields) (name : String) : Option Bool :=
  fields.required name Document.bool?

def signed (fields : Fields) (name : String) : Option Int :=
  fields.required name (Document.whole? .signed64)

end Fields
end ProjectDesk.Json
