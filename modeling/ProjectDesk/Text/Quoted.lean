import ProjectDesk.Text.Printable
import ProjectDesk.Text.Extender

/-!
Quoted text, as messages show names: between double quotes, with every character that would not
be seen as itself written as an escape.
-/

namespace ProjectDesk.Text

def quoteChar (c : Char) : List Char :=
  if c = '\x00' then ['\\', '0']
  else if c = '\t' then ['\\', 't']
  else if c = '\r' then ['\\', 'r']
  else if c = '\n' then ['\\', 'n']
  else if c = '"' || c = '\\' then ['\\', c]
  else if isPrintable c && !isExtender c then [c]
  else ['\\', 'u', '\x7b'] ++ Nat.toDigits 16 c.toNat ++ ['\x7d']

def quoted (s : String) : String :=
  String.ofList ('"' :: s.toList.flatMap quoteChar ++ ['"'])

end ProjectDesk.Text
