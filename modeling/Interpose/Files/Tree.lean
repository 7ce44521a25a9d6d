import Interpose.Files.Path

/-!
# File trees

A file tree is what a run finds and leaves on disk: regular files and directories, each at a
*place*, the list of names from the root. The root itself is always a directory.

Operations take paths as texts. A path is walked step by step from the working directory or the
root, and every step but the last must be a directory that exists; then `node?`, `put` and `erase`
work on the place that was reached.
-/

namespace Interpose

/-- What stands at a place. -/
inductive Node
  | file (content : Bytes)
  | directory
  deriving DecidableEq, Repr

/-- The names from the root to a place. -/
abbrev Place := List String

/-- A file tree and the working directory. -/
structure FileTree where
  entries : List (Place × Node) := []
  workingDirectory : Place := []
  deriving DecidableEq, Repr

/-- Why a file operation failed. -/
inductive Obstacle
  /-- There is nothing at the path. -/
  | missing
  /-- A file stands where a directory is needed. -/
  | notDirectory
  /-- A directory stands where a file is needed. -/
  | isDirectory
  /-- Something stands where a directory is to be made. -/
  | alreadyThere
  /-- The path holds a name that no file can have. -/
  | badName
  deriving DecidableEq, Repr

/-- The phrase for an obstacle. -/
def Obstacle.phrase : Obstacle → String
  | missing => "No such file or directory"
  | notDirectory => "Not a directory"
  | isDirectory => "Is a directory"
  | alreadyThere => "File exists"
  | badName => "File name too long"

/-- The number by which an obstacle is known. -/
def Obstacle.number : Obstacle → Nat
  | missing => 2
  | notDirectory => 20
  | isDirectory => 21
  | alreadyThere => 17
  | badName => 36

/-- The wording of an obstacle. -/
def Obstacle.text (o : Obstacle) : String :=
  o.phrase ++ " (os error " ++ toString o.number ++ ")"

namespace FileTree

/-! ## Places -/

/-- What stands at a place. -/
def node? (t : FileTree) (place : Place) : Option Node :=
  if place = [] then some .directory
  else (t.entries.find? (·.1 == place)).map (·.2)

/-- The tree with nothing at a place. -/
def erase (t : FileTree) (place : Place) : FileTree :=
  { t with entries := t.entries.filter (·.1 != place) }

/-- The tree with a node at a place. -/
def put (t : FileTree) (place : Place) (node : Node) : FileTree :=
  { t with entries := (t.erase place).entries ++ [(place, node)] }

theorem node?_put_same (t : FileTree) {place : Place} (h : place ≠ []) (node : Node) :
    (t.put place node).node? place = some node := by
  have : List.find? (fun e => e.1 == place) (t.erase place).entries = none := by
    simp [erase, List.find?_eq_none]
  simp [node?, put, h, List.find?_append, this]

theorem node?_put_other (t : FileTree) {place other : Place} (h : other ≠ place) (node : Node) :
    (t.put place node).node? other = t.node? other := by
  by_cases ho : other = []
  · simp [node?, ho]
  · have e : ∀ es : List (Place × Node),
        (es.filter (·.1 != place)).find? (·.1 == other) = es.find? (·.1 == other) := by
      intro es
      induction es with
      | nil => rfl
      | cons x xs ih =>
        by_cases hx : x.1 = place
        · have hne : (x.1 == other) = false := by
            simp [hx, Ne.symm h]
          simp [hx, ih, Ne.symm h]
        · simp [hx, List.find?_cons, ih]
    simp [node?, put, erase, ho, List.find?_append, e, h.symm]

/-! ## Walking a path -/

/-- The longest name of a file, in bytes. -/
def nameLimit : Nat := 255

/-- The longest path, in bytes. -/
def pathLimit : Nat := 4095

/-- The place one step from another, which must be a directory. -/
def step (t : FileTree) (place : Place) (name : String) : Except Obstacle Place :=
  match t.node? place with
  | none => .error .missing
  | some (.file _) => .error .notDirectory
  | some .directory =>
    if name = ".." then .ok place.dropLast
    else if nameLimit < name.utf8ByteSize then .error .badName
    else .ok (place ++ [name])

/-- Walk steps from a place. -/
def walkFrom (t : FileTree) (place : Place) : List String → Except Obstacle Place
  | [] => .ok place
  | name :: rest =>
    match t.step place name with
    | .ok next => t.walkFrom next rest
    | .error e => .error e

/-- Where a path starts. -/
def start (t : FileTree) (path : String) : Place :=
  if Path.isRooted path then [] else t.workingDirectory

/-- Whether a path can only be a directory: it ends with a slash, or with a dot as last step. -/
def wantsDirectory (path : String) : Bool :=
  endsText path "/" || endsText path "/." || path == "."

/-- Whether no file can have a path. -/
def isHopeless (path : String) : Bool :=
  pathLimit < path.utf8ByteSize || path.toList.contains '\x00'

/-- The place of a path, whether or not something stands there. -/
def walk (t : FileTree) (path : String) : Except Obstacle Place :=
  if path = "" then .error .missing
  else if isHopeless path then .error .badName
  else
    match t.walkFrom (t.start path) (Path.steps path) with
    | .error e => .error e
    | .ok place =>
      if wantsDirectory path then
        match t.node? place with
        | some .directory => .ok place
        | some (.file _) => .error .notDirectory
        | none => .error .missing
      else .ok place

/-- What stands at a path. -/
def look (t : FileTree) (path : String) : Except Obstacle Node :=
  match t.walk path with
  | .error e => .error e
  | .ok place =>
    match t.node? place with
    | none => .error .missing
    | some node => .ok node

/-! ## Files -/

/-- Whether a regular file stands at a path. -/
def isFile (t : FileTree) (path : String) : Bool :=
  match t.look path with
  | .ok (.file _) => true
  | _ => false

/-- Whether anything stands at a path. -/
def isThere (t : FileTree) (path : String) : Bool :=
  match t.look path with
  | .ok _ => true
  | .error _ => false

/-- The content of a file. -/
def read (t : FileTree) (path : String) : Except Obstacle Bytes :=
  match t.look path with
  | .ok (.file content) => .ok content
  | .ok .directory => .error .isDirectory
  | .error e => .error e

/-- Whether a file may be made at a place: the place above is a directory. -/
def hasRoom (t : FileTree) (place : Place) : Bool := t.node? place.dropLast == some .directory

/-- Write a file, making it if need be. -/
def write (t : FileTree) (path : String) (content : Bytes) : Except Obstacle FileTree :=
  match t.walk path with
  | .error e => .error e
  | .ok place =>
    match t.node? place with
    | some .directory => .error .isDirectory
    | some (.file _) => .ok (t.put place (.file content))
    | none => if t.hasRoom place then .ok (t.put place (.file content)) else .error .missing

/-- Remove a file. -/
def remove (t : FileTree) (path : String) : Except Obstacle FileTree :=
  match t.walk path with
  | .error e => .error e
  | .ok place =>
    match t.node? place with
    | some (.file _) => .ok (t.erase place)
    | some .directory => .error .isDirectory
    | none => .error .missing

/-- Move a file, replacing a file at the target. -/
def rename (t : FileTree) (source target : String) : Except Obstacle FileTree :=
  match t.walk source, t.walk target with
  | .error e, _ => .error e
  | _, .error e => .error e
  | .ok p, .ok q =>
    match t.node? p, t.node? q with
    | none, _ => .error .missing
    | some .directory, _ => .error .isDirectory
    | _, some .directory => .error .isDirectory
    | some (.file content), _ => .ok ((t.erase p).put q (.file content))

/-! ## Directories -/

/-- Make the directories along steps from a place. -/
def makeFrom (t : FileTree) (place : Place) : List String → Except Obstacle FileTree
  | [] => .ok t
  | name :: rest =>
    match t.step place name with
    | .error e => .error e
    | .ok next =>
      match t.node? next with
      | some .directory => t.makeFrom next rest
      | some (.file _) => .error (if rest.isEmpty then .alreadyThere else .notDirectory)
      | none => (t.put next .directory).makeFrom next rest

/-- The tree with the directories along steps from a place, as far as they can be made. -/
def growFrom (t : FileTree) (place : Place) : List String → FileTree
  | [] => t
  | name :: rest =>
    match t.step place name with
    | .error _ => t
    | .ok next =>
      match t.node? next with
      | some .directory => t.growFrom next rest
      | some (.file _) => t
      | none => (t.put next .directory).growFrom next rest

/-- Make a directory and those above it; the empty path is already there. -/
def makeDirectories (t : FileTree) (path : String) : Except Obstacle FileTree :=
  if isHopeless path then .error .badName
  else t.makeFrom (t.start path) (Path.steps path)

/-- What making a directory and those above it leaves, also where it fails on the way. -/
def grow (t : FileTree) (path : String) : FileTree :=
  if isHopeless path then t else t.growFrom (t.start path) (Path.steps path)

/-- Make a single directory where nothing stands. -/
def makeDirectory (t : FileTree) (path : String) : Except Obstacle FileTree :=
  let bare := String.ofList (path.toList.reverse.dropWhile (· == '/')).reverse
  match t.walk (if bare = "" then path else bare) with
  | .error e => .error e
  | .ok place =>
    match t.node? place with
    | some _ => .error .alreadyThere
    | none => if t.hasRoom place then .ok (t.put place .directory) else .error .missing

/-- The name of a place directly below another. -/
def childName? (parent place : Place) : Option String :=
  match stripFront? parent place with
  | some [name] => some name
  | _ => none

/-- The names and nodes directly below a directory, in order of their names. -/
def children (t : FileTree) (place : Place) : List (String × Node) :=
  (t.entries.filterMap fun (p, node) => (childName? place p).map (·, node)).mergeSort
    fun a b => a.1 ≤ b.1

/-- The contents of a directory. -/
def list (t : FileTree) (path : String) : Except Obstacle (List (String × Node)) :=
  match t.walk path with
  | .error e => .error e
  | .ok place =>
    match t.node? place with
    | some .directory => .ok (t.children place)
    | some (.file _) => .error .notDirectory
    | none => .error .missing

/-- Remove whatever stands at a path with all below it. -/
def removeAll (t : FileTree) (path : String) : Except Obstacle FileTree :=
  match t.walk path with
  | .error e => .error e
  | .ok place =>
    match t.node? place with
    | none => .error .missing
    | some _ => .ok { t with entries := t.entries.filter fun e => !place.isPrefixOf e.1 }

/-- The files and the empty directories below a place, by their paths from it. -/
def leaves (t : FileTree) (place : Place) : List (String × Option Bytes) :=
  let below := t.entries.filterMap fun (p, node) =>
    match stripFront? place p with
    | some (name :: rest) => some (p, "/".intercalate (name :: rest), node)
    | _ => none
  (below.filterMap fun (p, path, node) =>
    match node with
    | .file content => some (path, some content)
    | .directory => if (t.children p).isEmpty then some (path ++ "/", none) else none).mergeSort
      fun a b => a.1 ≤ b.1

end FileTree

end Interpose
