import ProjectDesk.Json.Value
import ProjectDesk.Double.Notation
import ProjectDesk.Text.Decimal

/-!
Writing values as JSON text, without space or with one member a line. Only quotes, backslashes
and the controls below U+0020 are escaped.
-/

namespace ProjectDesk.Json

def Number.text : Number → List Char
  | .whole n => Text.decimalChars n
  | .double x => x.text

def hexChar (n : Nat) : Char :=
  Nat.digitChar (n % 16)

def escapeChar (c : Char) : List Char :=
  if c = '"' || c = '\\' then ['\\', c]
  else if c = '\x08' then ['\\', 'b']
  else if c = '\x0c' then ['\\', 'f']
  else if c = '\n' then ['\\', 'n']
  else if c = '\r' then ['\\', 'r']
  else if c = '\t' then ['\\', 't']
  else if c.toNat < 0x20 then ['\\', 'u', '0', '0', hexChar (c.toNat / 16), hexChar c.toNat]
  else [c]

def stringText (s : String) : List Char :=
  '"' :: s.toList.flatMap escapeChar ++ ['"']

namespace Value

mutual

def text : Value → List Char
  | .null => ['n', 'u', 'l', 'l']
  | .bool true => ['t', 'r', 'u', 'e']
  | .bool false => ['f', 'a', 'l', 's', 'e']
  | .number n => n.text
  | .string s => stringText s
  | .array [] => ['[', ']']
  | .array (v :: vs) => '[' :: text v ++ itemsText vs
  | .object [] => ['\x7b', '\x7d']
  | .object ((n, v) :: ms) => '\x7b' :: stringText n ++ ':' :: text v ++ membersText ms

/-- The items after the first, with the closing bracket. -/
def itemsText : List Value → List Char
  | [] => [']']
  | v :: vs => ',' :: text v ++ itemsText vs

def membersText : List (String × Value) → List Char
  | [] => ['\x7d']
  | (n, v) :: ms => ',' :: stringText n ++ ':' :: text v ++ membersText ms

end

def compact (v : Value) : String :=
  String.ofList v.text

def newline (depth : Nat) : List Char :=
  '\n' :: List.replicate (2 * depth) ' '

mutual

def indentedText (depth : Nat) : Value → List Char
  | .null => ['n', 'u', 'l', 'l']
  | .bool true => ['t', 'r', 'u', 'e']
  | .bool false => ['f', 'a', 'l', 's', 'e']
  | .number n => n.text
  | .string s => stringText s
  | .array [] => ['[', ']']
  | .array (v :: vs) =>
      '[' :: newline (depth + 1) ++ indentedText (depth + 1) v ++ indentedItems depth vs
  | .object [] => ['\x7b', '\x7d']
  | .object ((n, v) :: ms) =>
      '\x7b' :: newline (depth + 1) ++ stringText n ++ [':', ' '] ++ indentedText (depth + 1) v ++
        indentedMembers depth ms

def indentedItems (depth : Nat) : List Value → List Char
  | [] => newline depth ++ [']']
  | v :: vs => ',' :: newline (depth + 1) ++ indentedText (depth + 1) v ++ indentedItems depth vs

def indentedMembers (depth : Nat) : List (String × Value) → List Char
  | [] => newline depth ++ ['\x7d']
  | (n, v) :: ms =>
      ',' :: newline (depth + 1) ++ stringText n ++ [':', ' '] ++ indentedText (depth + 1) v ++
        indentedMembers depth ms

end

/-- Two spaces for each open bracket. -/
def indented (v : Value) : String :=
  String.ofList (v.indentedText 0)

end Value
end ProjectDesk.Json
