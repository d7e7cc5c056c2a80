import ProjectDesk.Mail.Host
import ProjectDesk.Mail.Mailbox

/-!
Mail addresses: a user at a place where mail can go.
-/

namespace ProjectDesk.Mail

structure Address where
  user : String
  domain : String
  deriving DecidableEq, Repr

inductive AddressError where
  | invalidInput
  | invalidUser
  | invalidDomain
  deriving DecidableEq, Repr

namespace AddressError

def message : AddressError → String
  | .invalidInput => "Invalid input"
  | .invalidUser => "Invalid email user"
  | .invalidDomain => "Invalid email domain"

end AddressError

def longestUser : Nat := 64

/-- What a user in quotes consists of, with a backslash before anything visible. -/
def isQuotedUser : List Char → Bool
  | [] => true
  | '\\' :: c :: rest => 0x21 ≤ c.toNat && c.toNat ≤ 0x7E && isQuotedUser rest
  | c :: rest =>
      (isSpace c || (0x21 ≤ c.toNat && c.toNat ≤ 0x7E && c != '"' && c != '\\')) &&
        isQuotedUser rest

/-- The quotes looked at here are part of the user, not of the notation. -/
def isUser (cs : List Char) : Bool :=
  Text.byteLength cs ≤ longestUser &&
    if cs.head? = some '"' && cs.getLast? = some '"' then
      2 < cs.length && isQuotedUser (cs.drop 1).dropLast
    else (Text.pieces '.' cs).all fun piece => !piece.isEmpty && piece.all isNameChar

def Address.read (text : String) : Except AddressError Address :=
  match Mailbox.read text.toList with
  | none => .error .invalidInput
  | some mailbox =>
      if !isUser mailbox.user then .error .invalidUser
      else if !isHost mailbox.domain then .error .invalidDomain
      else .ok ⟨String.ofList mailbox.user, String.ofList mailbox.domain⟩

end ProjectDesk.Mail
