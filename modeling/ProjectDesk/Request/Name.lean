import ProjectDesk.Text.Quoted

/-!
The names that a request may carry: runs of lower-case letters and digits, joined by single
dots, underscores or hyphens.
-/

namespace ProjectDesk

/-- The longest name, in characters. Tombstone names keep to it in bytes. -/
def nameLimit : Nat := 255

def isNameLetter (c : Char) : Bool :=
  ('a' ≤ c && c ≤ 'z') || ('0' ≤ c && c ≤ '9')

def isNameJoint (c : Char) : Bool :=
  c == '.' || c == '_' || c == '-'

/-- Whether the characters can go on from here; after a joint, or at the start, a letter has to
come first. -/
def nameGoesOn (letterDue : Bool) : List Char → Bool
  | [] => !letterDue
  | c :: cs =>
      if isNameLetter c then nameGoesOn false cs
      else !letterDue && isNameJoint c && nameGoesOn true cs

inductive NameFault where
  | empty
  | tooLong
  | malformed (name : String)
  deriving DecidableEq, Repr

namespace NameFault

def pattern : String := "^[a-z0-9]+(?:[._-][a-z0-9]+)*$"

def message : NameFault → String
  | .empty => "request name is required"
  | .tooLong => "request name is longer than 255 characters"
  | .malformed name => "request name " ++ Text.quoted name ++ " must match " ++ pattern

end NameFault

def checkName (name : String) : Except NameFault Unit :=
  let cs := name.toList
  if cs.isEmpty then .error .empty
  else if nameLimit < cs.length then .error .tooLong
  else if nameGoesOn true cs then .ok ()
  else .error (.malformed name)

end ProjectDesk
