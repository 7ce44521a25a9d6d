import Interpose.Cache.Store

/-!
# What is in the store

`listing` walks the hosts below a root, the hashes below each host and the artifacts below each
hash, in order of their names. Files that are not artifacts, and directories at the wrong depth,
are passed over.
-/

namespace Interpose.Cache

/-- An artifact that was found. -/
structure Entry where
  host : String
  hash : String
  artifact : String
  metadata : Option Metadata
  deriving DecidableEq, Repr

/-- Whether a file name is that of an artifact. -/
def isArtifactName (name : String) : Bool := endsText name ".html" || endsText name ".js"

/-- The names and paths of the directories directly below a path. -/
def directoriesBelow (t : FileTree) (path : String) : Except Fault (List (String × String)) :=
  match t.list path with
  | .error _ => .error (.io ("listing " ++ path))
  | .ok children =>
    .ok <| (children.filter (·.2 == .directory)).map fun (name, _) => (name, Path.join path name)

/-- The artifacts in the directory of a hash. -/
def artifactsIn (t : FileTree) (host hash path : String) : Except Fault (List Entry) :=
  match t.list path with
  | .error _ => .error (.io ("listing " ++ path))
  | .ok children =>
    .ok <| (children.filter (isArtifactName ·.1)).map fun (name, _) =>
      let artifact := Path.join path name
      ⟨host, hash, artifact, ((t.read (metadataPath artifact)).toOption.bind Metadata.read?)⟩

/-- The artifacts in the directory of a host. -/
def artifactsOf (t : FileTree) (host path : String) : Except Fault (List Entry) := do
  let hashes ← directoriesBelow t path
  let found ← hashes.mapM fun (hash, path) => artifactsIn t host hash path
  return found.flatten

/-- The artifacts below a root. A root that is not there has none. -/
def listing (t : FileTree) (root : String) : Except Fault (List Entry) :=
  match t.look root with
  | .error .missing => .ok []
  | .error _ => .error (.io ("checking " ++ root))
  | .ok _ => do
    let hosts ← directoriesBelow t root
    let found ← hosts.mapM fun (host, path) => artifactsOf t host path
    return found.flatten

/-- What a listing notes in the log, unless there is no root. -/
def listingNote (t : FileTree) (root : String) (found : List Entry) : Trace :=
  if t.isThere root then
    .debug ("Found " ++ toString found.length ++ " cache entries under " ++ root)
  else {}

end Interpose.Cache
