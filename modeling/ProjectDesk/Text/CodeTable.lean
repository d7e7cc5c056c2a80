import ProjectDesk.Text.Hex
import ProjectDesk.Text.Pieces

/-!
Tables of code points, written as lines of words with hexadecimal numbers. A word names one code
point, a run of them as in `41-5A`, or every other one of a run as in `100-12E/2`. In a table that
says what code points stand for, a word goes on with code points joined by `+`: after `=` the
whole run stands for them, after `>` its first code point does and the others move along with it.
-/

namespace ProjectDesk.Text

structure CodeRun where
  first : Nat
  last : Nat
  step : Nat
  deriving DecidableEq, Repr

structure CodeRow where
  run : CodeRun
  image : List Nat
  moving : Bool
  deriving DecidableEq, Repr

/-- Tables hold nothing else where a number stands. -/
def codePoint (cs : List Char) : Nat :=
  (hexNumber? cs).getD 0

namespace CodeRun

def read (word : List Char) : CodeRun :=
  let step :=
    match Text.pieces '/' word with
    | [_, step] => codePoint step
    | _ => 1
  match Text.pieces '-' (word.takeWhile (· != '/')) with
  | [first, last] => ⟨codePoint first, codePoint last, step⟩
  | _ => ⟨codePoint (word.takeWhile (· != '/')), codePoint (word.takeWhile (· != '/')), step⟩

def holds (r : CodeRun) (n : Nat) : Bool :=
  r.first ≤ n && n ≤ r.last && (n - r.first) % r.step == 0

end CodeRun

namespace CodeRow

def read (word : List Char) : CodeRow :=
  let names := word.takeWhile fun c => c != '=' && c != '>'
  let rest := word.drop names.length
  ⟨CodeRun.read names, (pieces '+' (rest.drop 1)).map codePoint, rest.head? == some '>'⟩

def imageOf (r : CodeRow) (n : Nat) : List Nat :=
  if r.moving then r.image.map (· + (n - r.run.first)) else r.image

end CodeRow

def words (lines : List String) : List (List Char) :=
  lines.flatMap fun line => pieces ' ' line.toList

def codeSet (lines : List String) : List CodeRun :=
  (words lines).map CodeRun.read

def codeMap (lines : List String) : List CodeRow :=
  (words lines).map CodeRow.read

def inSet (set : List CodeRun) (c : Char) : Bool :=
  set.any (·.holds c.toNat)

/-- What a character stands for, if the table says. -/
def lookUp (table : List CodeRow) (c : Char) : Option (List Nat) :=
  (table.find? (·.run.holds c.toNat)).map (·.imageOf c.toNat)

end ProjectDesk.Text
