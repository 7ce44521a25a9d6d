import Interpose.Config.Schema
import Interpose.Fault
import Interpose.Files.Tree
import Interpose.Trace

/-!
# The configuration file

Where there is no file the defaults hold. Saving makes the directory of the file first, so that is
there even when the configuration then turns out not to be writable as TOML.
-/

namespace Interpose.Config

/-- The directory of configurations: the one that was named, if its path starts at the root; else
one in the home directory; else, without a home, the working directory. -/
def directory (named home : Option String) : String :=
  match named.filter Path.isRooted, home.filter (· ≠ "") with
  | some path, _ => path
  | none, some home => Path.join home ".config"
  | none, none => "."

/-- The path of the configuration file in a directory of configurations. -/
def defaultPath (directory : String) : String :=
  Path.join (Path.join directory "initracer-proxy") "config.toml"

/-- The configuration that a file holds. -/
def load (t : FileTree) (path : String) : Except Fault Config :=
  if !t.isThere path then .ok {}
  else
    match (t.read path).toOption.bind Utf8.decode? with
    | none => .error (.io ("reading config from " ++ path))
    | some text =>
      match read? text with
      | none => .error (.configInvalid path "not a configuration")
      | some c => .ok c

/-- What loading notes in the log. -/
def loadNote (t : FileTree) (path : String) : Trace :=
  if t.isThere path then {} else .debug "Config file not found, using defaults"

/-- Write a configuration to a file. -/
def save (c : Config) (t : FileTree) (path : String) : FileTree × Except Fault Unit :=
  let directory := (Path.parent? path).getD ""
  match t.makeDirectories directory with
  | .error e => (t.grow directory, .error (.configDirectory directory e.text))
  | .ok t =>
    match c.print? with
    | none => (t, .error .unwritableConfig)
    | some text =>
      match t.write path (Bytes.ofText text) with
      | .error _ => (t, .error (.io ("writing config to " ++ path)))
      | .ok t => (t, .ok ())

/-- What a successful save notes in the log. -/
def saveNote (path : String) : Trace := .info ("Configuration saved to " ++ path)

end Interpose.Config
