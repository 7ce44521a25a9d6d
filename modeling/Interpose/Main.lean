import Interpose.CommandLine.Run
import Interpose.Shell.Run
import Std.Time.DateTime.Timestamp

/-!
# The program

Reads the files that a run may need into a file tree, carries out the command line on it, and
writes what has changed back to disk. What is read: the working directory, the directory of
configurations, and every place that an argument names from the root.
-/

namespace Interpose.Disk

/-- How deep directories are read. -/
def readingDepth : Nat := 64

/-- What stands at an entry of a directory and below it. What cannot be read is left out. -/
def entriesAt : Nat → Place → IO.FS.DirEntry → IO (List (Place × Node))
  | 0, _, _ => return []
  | depth + 1, place, entry => do
    try
      if ← entry.path.isDir then
        let mut found := [(place, Node.directory)]
        for child in ← entry.path.readDir do
          found := found ++ (← entriesAt depth (place ++ [child.fileName]) child)
        return found
      else if ← entry.path.pathExists then
        return [(place, .file (← IO.FS.readBinFile entry.path).toList)]
      else return []
    catch _ => return []

/-- The places above a place, the root apart. -/
def above (place : Place) : List Place :=
  (List.range place.length).tail.map fun n => place.take n

/-- What stands at some places and below them, with the directories above. -/
def readTree (places : List Place) (workingDirectory : Place) : IO FileTree := do
  let mut tree : FileTree := { workingDirectory }
  for place in places do
    let path := "/" ++ "/".intercalate place
    let found ← entriesAt readingDepth place { root := path, fileName := "." }
    if !found.isEmpty then
      for p in above place do
        if (tree.node? p).isNone then tree := tree.put p .directory
      for (p, node) in found do tree := tree.put p node
  return tree

/-- Bring the disk from one file tree to another. -/
def writeChanges (old new : FileTree) : IO Unit := do
  for (place, node) in old.entries do
    if (new.node? place).isNone && node != .directory then
      IO.FS.removeFile ("/" ++ "/".intercalate place)
  for (place, node) in new.entries do
    let path := "/" ++ "/".intercalate place
    if old.node? place != some node then
      match node with
      | .directory => IO.FS.createDirAll path
      | .file content =>
        IO.FS.createDirAll ("/" ++ "/".intercalate place.dropLast)
        IO.FS.writeBinFile path ⟨content.toArray⟩

/-- The variables of the environment that a run looks at. -/
def variableNames : List String := ["HOME", "XDG_CONFIG_HOME", "INITRACER_PROXY_CONFIG", "PATH"]

/-- Carry out the command line. -/
def run (arguments : List String) : IO UInt32 := do
  let workingDirectory := Path.steps (← IO.currentDir).toString
  let environment ← variableNames.filterMapM fun name => do
    return (← IO.getEnv name).map (name, ·)
  let home := environment.lookup "HOME"
  let configurations := Config.directory (environment.lookup "XDG_CONFIG_HOME") home
  let rooted := (configurations :: arguments).filter Path.isRooted
  let places := workingDirectory :: rooted.map Path.steps
  let tree ← readTree places workingDirectory
  let now := (← Std.Time.Timestamp.now).toNanosecondsSinceUnixEpoch.val
  let world : CommandLine.World :=
    { tree, environment
      now := .ofEpoch (now / 1000000000) (now % 1000000000).toNat
      process := 1, programs := Shell.programs environment }
  let finish := CommandLine.run world arguments
  writeChanges tree finish.tree
  IO.print finish.out
  IO.eprint finish.err
  return UInt32.ofNat finish.code

end Interpose.Disk

/-- The program. -/
def main (arguments : List String) : IO UInt32 := Interpose.Disk.run arguments
