import ProjectDesk.Logging.Filter
import ProjectDesk.Config.Loading

/-!
Setting up the log of the process, which can be done once, and what is logged while a
configuration is loaded.
-/

namespace ProjectDesk.Logging

inductive Format where
  | text
  | json
  deriving DecidableEq, Repr

namespace Format

def name : Format → String
  | .text => "text"
  | .json => "json"

/-- Text, unless `json` was asked for, in any case. -/
def ofSetting (setting : Option String) : Format :=
  match setting with
  | some s => if lowerCase s.toList = "json".toList then .json else .text
  | none => .text

end Format

structure Subscriber where
  format : Format
  filter : Filter
  /-- Output goes to the test harness and not to the log. -/
  forTests : Bool := false
  deriving DecidableEq, Repr

inductive SetupError where
  | badFilter
  | alreadySet
  deriving DecidableEq, Repr

namespace SetupError

def message : SetupError → String
  | .badFilter => "invalid log filter"
  | .alreadySet => "a global default trace dispatcher has already been set"

end SetupError

def install (s : Subscriber) (current : Option Subscriber) :
    Except SetupError Unit × Option Subscriber :=
  match current with
  | some _ => (.error .alreadySet, current)
  | none => (.ok (), some s)

/-- The level is `info` unless one is set. The filter is looked at before the place is. -/
def setUp (format : Format) (level : Option String) (current : Option Subscriber) :
    Except SetupError Unit × Option Subscriber :=
  match Filter.read (Filter.textFor (level.getD "info")) with
  | none => (.error .badFilter, current)
  | some filter => install { format, filter } current

/-- For tests the level is `debug`, and that the place is taken already is no matter. -/
def setUpForTests (current : Option Subscriber) : Option Subscriber :=
  match Filter.read (Filter.textFor "debug") with
  | none => current
  | some filter => (install { format := .text, filter, forTests := true } current).2

structure Line where
  level : Level
  target : String
  message : String
  deriving DecidableEq, Repr

namespace Line

def ofNotice (complaint : String → String) (n : ConfigNotice) : Line :=
  let level :=
    match n with
    | .unreadable _ | .rejected _ => Level.warn
    | .noFile => Level.info
  { level, target := "registry_services::services::config", message := n.message complaint }

def text (l : Line) : String :=
  l.level.name ++ " " ++ l.target ++ ": " ++ l.message

def toValue (l : Line) : Json.Value :=
  .object [("fields", .object [("message", .string l.message)]), ("level", .string l.level.name),
    ("target", .string l.target)]

def rendered (format : Format) (l : Line) : Json.Value :=
  match format with
  | .text => .string l.text
  | .json => l.toValue

end Line

namespace Subscriber

def log (s : Subscriber) (lines : List Line) : List Json.Value :=
  if s.forTests then []
  else (lines.filter fun l => s.filter.passes l.target l.level).map (Line.rendered s.format)

end Subscriber
end ProjectDesk.Logging
