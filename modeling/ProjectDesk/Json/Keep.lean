import ProjectDesk.Json.Number
import ProjectDesk.Json.Reader

/-!
Keeping a document as a value. What is kept has to be whole text and finite numbers, and its
brackets may nest only so deep; `room` is how many may still be opened. An object with a certain
name for its first member only wraps a JSON text, and the value of that text is kept instead.
-/

namespace ProjectDesk.Json

/-- How many brackets may be open at once in what is kept. -/
def Document.depthLimit : Nat := 127

/-- The name by which an object that wraps a text is known. -/
def wrapperName : String := "$serde_json::private::RawValue"

def isWrapper (members : List (List StringItem × Document)) : Bool :=
  members.head?.any fun member => text? member.1 == some wrapperName

/-- A wrapper has no other members. -/
def wrapped? : List (List StringItem × Document) → Option String
  | [(_, .string items)] => text? items
  | _ => none

namespace Document

mutual

/-- Could be put aside to be read later; nothing is unwrapped then. -/
def isKeepable (room : Nat) : Document → Bool
  | .null | .bool _ => true
  | .number n => n.number?.isSome
  | .string items => (text? items).isSome
  | .array items =>
      match room with
      | 0 => false
      | room + 1 => areKeepable room items
  | .object members =>
      match room with
      | 0 => false
      | room + 1 => areKeepableMembers room members

def areKeepable (room : Nat) : List Document → Bool
  | [] => true
  | d :: ds => isKeepable room d && areKeepable room ds

def areKeepableMembers (room : Nat) : List (List StringItem × Document) → Bool
  | [] => true
  | (name, d) :: ds => (text? name).isSome && isKeepable room d && areKeepableMembers room ds

end

mutual

/-- `inner` finds the value of a wrapped text. -/
def valueWith? (inner : String → Option Value) (room : Nat) : Document → Option Value
  | .null => some .null
  | .bool b => some (.bool b)
  | .number n => n.number?.map .number
  | .string items => (text? items).map .string
  | .array items =>
      match room with
      | 0 => none
      | room + 1 => (valuesWith? inner room items).map .array
  | .object members =>
      match room with
      | 0 => none
      | room + 1 =>
          if isWrapper members then (wrapped? members).bind inner
          else (membersWith? inner room members).map fun ms => .object (Value.collect ms)

def valuesWith? (inner : String → Option Value) (room : Nat) :
    List Document → Option (List Value)
  | [] => some []
  | d :: ds => do
      let v ← valueWith? inner room d
      let vs ← valuesWith? inner room ds
      some (v :: vs)

def membersWith? (inner : String → Option Value) (room : Nat) :
    List (List StringItem × Document) → Option (List (String × Value))
  | [] => some []
  | (name, d) :: ds => do
      let n ← text? name
      let v ← valueWith? inner room d
      let vs ← membersWith? inner room ds
      some ((n, v) :: vs)

end

end Document

/-- The value of a JSON text. A text within a text is shorter, which bounds the levels. -/
def keepText : Nat → String → Option Value
  | 0, _ => none
  | levels + 1, text => do
      let d ← read text
      d.valueWith? (keepText levels) Document.depthLimit

def wrappedValue (text : String) : Option Value :=
  keepText (text.length + 1) text

namespace Document

def value? (room : Nat) (d : Document) : Option Value :=
  d.valueWith? wrappedValue room

def members? (room : Nat) (members : List (List StringItem × Document)) :
    Option (List (String × Value)) :=
  membersWith? wrappedValue room members

end Document
end ProjectDesk.Json
