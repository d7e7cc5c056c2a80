/-!
The one dispatcher of the process. It is put in place once and stays.
-/

namespace ProjectDesk.Startup

inductive InstallError where
  | alreadyInstalled
  deriving DecidableEq, Repr

def InstallError.message : InstallError → String
  | .alreadyInstalled => "A process-wide dispatcher is already installed"

def install (a : α) (place : Option α) : Except InstallError Unit × Option α :=
  match place with
  | some _ => (.error .alreadyInstalled, place)
  | none => (.ok (), some a)

end ProjectDesk.Startup
