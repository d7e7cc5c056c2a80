import ProjectDesk.Text.Alphanumeric
import ProjectDesk.Text.Cut
import ProjectDesk.Text.Hex
import ProjectDesk.Text.Pieces
import ProjectDesk.DomainName.Ascii
import ProjectDesk.Mail.Mailbox

/-!
Where mail can go: a name of labels, or the number of a host in the network, which stands in
brackets or is one of eight groups. What is none of these as it is written may be in its ASCII
form.
-/

namespace ProjectDesk.Mail

/-- Hangul syllables, and the places kept for more of them. -/
def isHangul (c : Char) : Bool :=
  0xAC00 ≤ c.toNat && c.toNat ≤ 0xD7AF

/-- The characters of a name's label and of a user that stands without quotes. -/
def isNameChar (c : Char) : Bool :=
  Text.isAlphanumeric c || isAtomMark c || isHangul c

def longestLabel : Nat := 63

def longestDomain : Nat := 254

def isLabel (cs : List Char) : Bool :=
  cs.head?.any Text.isAlphanumeric && cs.getLast?.any Text.isAlphanumeric &&
    Text.byteLength cs ≤ longestLabel && cs.all isNameChar

/-- Whatever is visible in ASCII, except brackets and backslashes. -/
def isLiteralChar (c : Char) : Bool :=
  (0x21 ≤ c.toNat && c.toNat ≤ 0x5A) || (0x5E ≤ c.toNat && c.toNat ≤ 0x7E)

/-- In brackets all is left to the network. -/
def isLiteral (cs : List Char) : Bool :=
  match cs with
  | '[' :: rest => rest.getLast? == some ']' && rest.dropLast.all isLiteralChar
  | _ => false

def isName (cs : List Char) : Bool :=
  Text.byteLength cs ≤ longestDomain && (isLiteral cs || (Text.pieces '.' cs).all isLabel)

/-- A number up to 255, without zeros ahead. -/
def isOctet (cs : List Char) : Bool :=
  !cs.isEmpty && cs.all Char.isDigit && (cs.head? != some '0' || cs.length == 1) &&
    Nat.ofDigitChars 10 cs 0 ≤ 255

def isGroup (cs : List Char) : Bool :=
  1 ≤ cs.length && cs.length ≤ 4 && (Text.hexNumber? cs).isSome

/-- The last two groups may be written as four octets. -/
def groupCount? : List (List Char) → Option Nat
  | [] => some 0
  | [last] =>
      if isGroup last then some 1
      else if (Text.pieces '.' last).length = 4 && (Text.pieces '.' last).all isOctet then some 2
      else none
  | group :: more => if isGroup group then (groupCount? more).map (· + 1) else none

/-- The groups on each side of the pair of colons that stands for a run of zeros. -/
def splitAtGap : List Char → Option (List Char × List Char)
  | ':' :: ':' :: rest => some ([], rest)
  | c :: rest => (splitAtGap rest).map fun (before, after) => (c :: before, after)
  | [] => none

def groupsOf (cs : List Char) : List (List Char) :=
  if cs.isEmpty then [] else Text.pieces ':' cs

def isHostNumber (cs : List Char) : Bool :=
  match splitAtGap cs with
  | none => groupCount? (groupsOf cs) == some 8
  | some (before, after) =>
      (groupsOf before).all isGroup &&
        ((groupCount? (groupsOf after)).any fun n => (groupsOf before).length + n ≤ 7)

def isHost (cs : List Char) : Bool :=
  isName cs || (DomainName.toAscii? cs).any fun ascii => isName ascii || isHostNumber ascii

end ProjectDesk.Mail
