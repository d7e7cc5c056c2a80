/-!
The notation of mail addresses: `user@domain` on its own, or in angle brackets after a display
name. A user or a word of a display name may stand in quotes. Spaces and tabs may come before a
user, a domain or an opening bracket and around the whole, and nowhere else outside of quotes.
-/

namespace ProjectDesk.Mail

def isSpace (c : Char) : Bool :=
  c == ' ' || c == '\t'

def dropSpaces (cs : List Char) : List Char :=
  cs.dropWhile isSpace

def trimSpaces (cs : List Char) : List Char :=
  (dropSpaces (dropSpaces cs).reverse).reverse

def isAtomMark (c : Char) : Bool :=
  "!#$%&'*+-/=?^_`\x7b|\x7d~".toList.contains c

/-- Characters outside ASCII are taken as they come; what they are is looked at later. -/
def isAtomChar (c : Char) : Bool :=
  c.isAlphanum || isAtomMark c || 0x80 ≤ c.toNat

/-- Controls except tab, line feed, carriage return and NUL. -/
def isSilentControl (c : Char) : Bool :=
  (0x01 ≤ c.toNat && c.toNat ≤ 0x08) || c.toNat == 0x0B || c.toNat == 0x0C ||
    (0x0E ≤ c.toNat && c.toNat ≤ 0x1F) || c.toNat == 0x7F

/-- What stands for itself in quotes. -/
def isQuotedChar (c : Char) : Bool :=
  isSilentControl c || 0x80 ≤ c.toNat ||
    (0x21 ≤ c.toNat && c.toNat ≤ 0x7E && c != '"' && c != '\\')

/-- What a backslash may take along. -/
def isEscapable (c : Char) : Bool :=
  isSilentControl c || c == '\t' || (0x20 ≤ c.toNat && c.toNat ≤ 0x7E)

/-- Atoms with single dots between them, from within an atom on. -/
def takeDotted : List Char → List Char
  | [] => []
  | c :: cs =>
      if isAtomChar c || (c == '.' && cs.head?.any isAtomChar) then c :: takeDotted cs else []

def readDotted (cs : List Char) : Option (List Char × List Char) :=
  let cs := dropSpaces cs
  if cs.head?.any isAtomChar then some (takeDotted cs, cs.drop (takeDotted cs).length) else none

/-- From behind the opening quote. Of spaces in a row the first is kept, and none at the end. -/
def readQuoted (space : Option Char) : List Char → Option (List Char × List Char)
  | [] => none
  | '"' :: rest => some ([], rest)
  | '\\' :: c :: rest =>
      if isEscapable c then
        (readQuoted none rest).map fun (text, rest) => (space.toList ++ c :: text, rest)
      else none
  | c :: rest =>
      if isSpace c then readQuoted (space.or (some c)) rest
      else if isQuotedChar c then
        (readQuoted none rest).map fun (text, rest) => (space.toList ++ c :: text, rest)
      else none

def readUser (cs : List Char) : Option (List Char × List Char) :=
  match cs with
  | '"' :: rest => readQuoted none rest
  | _ => readDotted cs

/-- User and domain as they are meant, without quotes. -/
structure Mailbox where
  user : List Char
  domain : List Char
  deriving DecidableEq, Repr

namespace Mailbox

def readSpec (cs : List Char) : Option (Mailbox × List Char) :=
  match readUser cs with
  | some (user, '@' :: rest) => (readDotted rest).map fun (domain, rest) => (⟨user, domain⟩, rest)
  | _ => none

/-- Passes over atoms, dots, spaces and quoted words up to the bracket. -/
def skipName (inQuotes : Bool) : List Char → Option (List Char)
  | [] => none
  | '\\' :: c :: rest => if inQuotes && isEscapable c then skipName true rest else none
  | c :: rest =>
      if c = '"' then skipName (!inQuotes) rest
      else if inQuotes then
        if isSpace c || isQuotedChar c then skipName true rest else none
      else if c = '<' then some rest
      else if isSpace c || c = '.' || isAtomChar c then skipName false rest
      else none

/-- A display name does not start with a dot. -/
def readNamed (cs : List Char) : Option Mailbox :=
  if cs.head? = some '.' then none
  else
    match (skipName false cs).bind readSpec with
    | some (mailbox, ['>']) => some mailbox
    | _ => none

def readBare (cs : List Char) : Option Mailbox :=
  match readSpec cs with
  | some (mailbox, []) => some mailbox
  | _ => none

def read (cs : List Char) : Option Mailbox :=
  let cs := trimSpaces cs
  (readNamed cs).or (readBare cs)

end Mailbox
end ProjectDesk.Mail
