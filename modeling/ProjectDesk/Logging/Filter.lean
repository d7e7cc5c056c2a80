import ProjectDesk.Logging.ValuePattern
import ProjectDesk.Text.Alphanumeric
import ProjectDesk.Text.Blank
import ProjectDesk.Text.Cut
import ProjectDesk.Text.Pieces

/-!
Log filters: comma-separated directives, each a level, or a target with a level. A target may go
on with a scope in brackets, which names a span and a field of what is logged. The most precise
directive that fits a message decides; of two that are alike the later one.
-/

namespace ProjectDesk.Logging

inductive Level where
  | error
  | warn
  | info
  | debug
  | trace
  deriving DecidableEq, Repr

namespace Level

def rank : Level → Nat
  | .error => 1
  | .warn => 2
  | .info => 3
  | .debug => 4
  | .trace => 5

def name : Level → String
  | .error => "ERROR"
  | .warn => "WARN"
  | .info => "INFO"
  | .debug => "DEBUG"
  | .trace => "TRACE"

end Level

/-- A field that a message must have, perhaps with a certain value. -/
structure FieldTest where
  name : List Char
  hasValue : Bool
  deriving DecidableEq, Repr

/-- Up to which rank messages pass; nothing passes at zero. -/
structure Directive where
  target : List Char := []
  span : Option (List Char) := none
  field : Option FieldTest := none
  upTo : Nat := Level.trace.rank
  deriving DecidableEq, Repr

/-- The names in order of rank, beginning with zero. -/
def thresholdNames : List String := ["off", "error", "warn", "info", "debug", "trace"]

def lowerCase (cs : List Char) : List Char :=
  cs.map Char.toLower

/-- A numeral may have a plus sign and zeros ahead. -/
def numeral? (cs : List Char) : Option Nat :=
  let digits := if cs.head? = some '+' then cs.drop 1 else cs
  if !digits.isEmpty && digits.all Char.isDigit then some (Nat.ofDigitChars 10 digits 0) else none

def threshold? (cs : List Char) : Option Nat :=
  match (thresholdNames.map String.toList).idxOf? (lowerCase cs) with
  | some rank => some rank
  | none => (numeral? cs).filter (· ≤ Level.trace.rank)

def mayStart (c : Char) : Bool :=
  c == '-' || c == ':' || c == '_' || Text.isAlphanumeric c

/-- A part of a directive, counted in bytes, and what comes behind it. -/
structure Part where
  start : Nat
  chars : List Char
  rest : List Char

/-- What is found in a directive without the blanks around it, is cut out of it with the blanks. -/
def Part.cut (p : Part) (piece : List Char) : List Char :=
  Text.takeBytes (Text.dropBytes piece p.start) (Text.byteLength p.chars)

/-- From a place in the directive up to one of the marks. -/
def partUpTo (marks : List Char) (start : Nat) (cs : List Char) : Part :=
  let chars := cs.takeWhile (!marks.contains ·)
  ⟨start, chars, cs.drop chars.length⟩

/-- Where the text behind the part's end mark begins. -/
def Part.next (p : Part) : Nat :=
  p.start + Text.byteLength p.chars + 1

/-- No level at all is the same as none that holds anything back. -/
def readLevel (d : Directive) (level : List Char) : Option Directive :=
  if level.isEmpty then some { d with upTo := Level.trace.rank }
  else (threshold? level).map fun upTo => { d with upTo }

/-- From behind the scope. -/
def readEnding (piece : List Char) (d : Directive) (start : Nat) (cs : List Char) :
    Option Directive :=
  match cs with
  | [] => some d
  | '=' :: _ => readLevel d (Text.dropBytes piece (start + 1))
  | _ => none

/-- A name, or a name and a value; of more equals signs only the first two parts are read. -/
def readField (cs : List Char) : Option FieldTest :=
  match Text.pieces '=' cs with
  | [] | [[]] => none
  | [name] => some ⟨name, false⟩
  | name :: value :: _ => if ValuePattern.isValue value then some ⟨name, true⟩ else none

/-- From behind the opening bracket. -/
def readScope (piece : List Char) (d : Directive) (start : Nat) (cs : List Char) :
    Option Directive :=
  let span := partUpTo [']', '\x7b'] start cs
  match span.rest with
  | ']' :: rest => readEnding piece { d with span := some (span.cut piece) } span.next rest
  | '\x7b' :: rest =>
      let field := partUpTo ['\x7d'] span.next rest
      let name := span.cut piece
      match readField (field.cut piece), field.rest with
      | some test, '\x7d' :: ']' :: rest =>
          let d := { d with span := if name.isEmpty then none else some name, field := some test }
          readEnding piece d (field.next + 1) rest
      | _, _ => none
  | _ => none

/-- What is no level on its own is a target that lets everything pass. -/
def readDirective (piece : List Char) : Option Directive :=
  let cs := Text.trimChars piece
  match cs with
  | [] => none
  | '[' :: rest => readScope piece {} 1 rest
  | c :: _ =>
      let target := partUpTo ['=', '['] 0 cs
      let d : Directive := { target := target.cut piece }
      if !mayStart c then none
      else
        match target.rest with
        | '=' :: _ => readLevel d (Text.dropBytes piece target.next)
        | '[' :: rest => readScope piece d target.next rest
        | _ =>
            match threshold? piece with
            | some upTo => some { upTo }
            | none => some { target := piece }

structure Filter where
  directives : List Directive
  deriving DecidableEq, Repr

/-- Every message has its text in this field, and is logged outside of all spans. -/
def textField : List Char := "message".toList

namespace Directive

def fits (d : Directive) (target : List Char) : Bool :=
  d.target.isPrefixOf target && d.span.isNone &&
    d.field.all fun field => field.name = textField && !field.hasValue

/-- The longer the target the more precise; one that asks for a field is more so than without. -/
def isAsPrecise (a b : Directive) : Bool :=
  b.target.length < a.target.length ||
    (b.target.length = a.target.length && (b.field.isNone || a.field.isSome))

end Directive

namespace Filter

def read (text : String) : Option Filter :=
  (((Text.pieces ',' text.toList).filter (!·.isEmpty)).mapM readDirective).map Filter.mk

def inForce (f : Filter) (target : List Char) : Option Directive :=
  (f.directives.filter (·.fits target)).foldl (fun best d =>
    if best.all d.isAsPrecise then some d else best) none

def passes (f : Filter) (target : String) (level : Level) : Bool :=
  (f.inForce target.toList).any fun d => level.rank ≤ d.upTo

/-- Keeps all else at `warn` and the parts of the desk at the given level. -/
def textFor (level : String) : String :=
  "warn,registry_db=" ++ level ++ ",registry_services=" ++ level ++ ",registry_utils=" ++ level

end Filter
end ProjectDesk.Logging
