import ProjectDesk.Config.Codec
import ProjectDesk.Text.Cut
import ProjectDesk.Text.Pieces

/-!
Turning raw text into a configuration. There always is one: text that is no configuration, or
one that does not pass the check, gives the default, and the reason is told.
-/

namespace ProjectDesk

inductive ConfigNotice where
  | unreadable (text : String)
  | rejected (fault : ConfigFault)
  | noFile
  deriving DecidableEq, Repr

namespace ConfigNotice

/-- What is wrong with a text that cannot be read is told in the words of the reader of JSON. -/
def message (complaint : String → String) : ConfigNotice → String
  | .unreadable text => "Config could not be parsed: " ++ complaint text ++ ", using default"
  | .rejected fault => "Config rejected: " ++ fault.message ++ ", using default"
  | .noFile => "No config file found, using defaults"

end ConfigNotice

namespace Config

def ofText (text : String) : Config × List ConfigNotice :=
  match read text with
  | none => ({}, [.unreadable text])
  | some config =>
      match config.check with
      | .ok () => (config, [])
      | .error fault => ({}, [.rejected fault])

end Config

/-- What stands at the path of a configuration file. -/
inductive ConfigFile where
  | absent
  /-- The directory that the file should lie in is not there either. -/
  | unreachable
  | directory
  /-- No file can have this name, for its length. -/
  | overlong
  /-- No file can have this name, for what it consists of. -/
  | unnamable
  | file (bytes : ByteArray)

inductive SaveError where
  | rejected (fault : ConfigFault)
  | noSuchFile
  | isDirectory
  | nameTooLong
  | nulInName
  deriving DecidableEq, Repr

namespace SaveError

def message : SaveError → String
  | .rejected fault => fault.message
  | .noSuchFile => "No such file or directory (os error 2)"
  | .isDirectory => "Is a directory (os error 21)"
  | .nameTooLong => "File name too long (os error 36)"
  | .nulInName => "file name contained an unexpected NUL byte"

end SaveError

namespace ConfigFile

/-- Parts of a path that lead to a directory which is always there. -/
def standingParts : List (List Char) := [[], ['.'], ['.', '.']]

/-- The longest name of a file or directory, in bytes. -/
def longestName : Nat := 255

/-- A path with its end mark has room for no more bytes than this. -/
def longestPath : Nat := 4095

/-- Goes along the parts of a path through a directory with nothing in it. -/
def atParts : List (List Char) → ConfigFile
  | [] => .directory
  | part :: rest =>
      if standingParts.contains part then atParts rest
      else if !rest.isEmpty && rest.all List.isEmpty then .directory
      else if longestName < Text.byteLength part then .overlong
      else if rest.isEmpty then .absent
      else .unreachable

/-- The place that a relative path names in a directory with nothing in it. -/
def atPath (path : String) : ConfigFile :=
  let cs := path.toList
  if cs.contains '\x00' then .unnamable
  else if longestPath < Text.byteLength cs then .overlong
  else atParts (Text.pieces '/' cs)

def text? : ConfigFile → Option String
  | .file bytes => String.fromUTF8? bytes
  | _ => none

/-- A file that is missing or no text counts as no file. -/
def load (f : ConfigFile) : Config × List ConfigNotice :=
  match f.text? with
  | some text => Config.ofText text
  | none => ({}, [.noFile])

/-- Where nothing can be written, everything stays as it is. -/
def write (text : String) (f : ConfigFile) : Except SaveError Unit × ConfigFile :=
  match f with
  | .unreachable => (.error .noSuchFile, f)
  | .directory => (.error .isDirectory, f)
  | .overlong => (.error .nameTooLong, f)
  | .unnamable => (.error .nulInName, f)
  | .absent | .file _ => (.ok (), .file text.toUTF8)

/-- How it goes, and what stands at the path then. The check comes first. -/
def save (config : Config) (f : ConfigFile) : Except SaveError Unit × ConfigFile :=
  match config.check with
  | .error fault => (.error (.rejected fault), f)
  | .ok () => f.write config.toValue.indented

end ConfigFile
end ProjectDesk
