import ProjectDesk.Text.Hex

/-!
Universally unique identifiers: thirty-two hexadecimal digits, written in lower case in five
groups.
-/

namespace ProjectDesk

structure Uuid where
  digits : List Char
  deriving DecidableEq, Repr

namespace Uuid

def groups : List Nat := [8, 4, 4, 4, 12]

def ofDigits? (digits : List Char) : Option Uuid :=
  if digits.length = 32 && (Text.hexNumber? digits).isSome then some ⟨digits.map Char.toLower⟩ else none

def takeGroups : List Nat → List Char → Option (List Char)
  | [], cs => if cs.isEmpty then some [] else none
  | [n], cs => if cs.length = n then some cs else none
  | n :: more, cs =>
      match cs.drop n with
      | '-' :: rest => (takeGroups more rest).map (cs.take n ++ ·)
      | _ => none

def ofGroups? (cs : List Char) : Option Uuid :=
  (takeGroups groups cs).bind ofDigits?

def urnLead : List Char := "urn:uuid:".toList

/-- Bare digits, groups, groups in braces, or groups as a URN. -/
def read (text : String) : Option Uuid :=
  let cs := text.toList
  if cs.length = 32 then ofDigits? cs
  else if cs.length = 36 then ofGroups? cs
  else if cs.length = 38 then
    if cs.head? = some '\x7b' && cs.getLast? = some '\x7d' then ofGroups? (cs.drop 1).dropLast
    else none
  else if cs.length = 45 && urnLead.isPrefixOf cs then ofGroups? (cs.drop urnLead.length)
  else none

def writeGroups : List Nat → List Char → List Char
  | [], cs => cs
  | [_], cs => cs
  | n :: more, cs => cs.take n ++ '-' :: writeGroups more (cs.drop n)

def text (u : Uuid) : String :=
  String.ofList (writeGroups groups u.digits)

end Uuid
end ProjectDesk
