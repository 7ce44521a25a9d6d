import Interpose.Cache.Key
import Interpose.Files.Tree
import Interpose.Http.Request
import Interpose.Text.Utf16
import Interpose.Time.Rfc3339
import Interpose.Json.Printer
import Interpose.Json.Reader
import Interpose.Trace
import Interpose.Fault

/-!
# The store of artifacts

`instrument` answers the instrumented form of a body. The store keeps, in one directory per host
and source, three files for each artifact: the artifact itself, its source, and metadata about the
run that made it. With caching on, an artifact that is there answers the call (a *hit*).

On a miss the tool writes to a *staging* file in the same directory, which is read and then moved
to the artifact's place. So an artifact appears whole or not at all, and a failing tool leaves an
older artifact as it was.

The tool is a parameter: what it does with a job is a change of the file tree and an end, good or
bad. `Tool.leaving` is a tool that touches its output file only.
-/

namespace Interpose

/-- A run of a tool: the file tree it leaves, what it logged, and whether it succeeded. -/
structure ToolRun where
  tree : FileTree
  log : List Event := []
  result : Except Fault Unit

/-- An instrumentation tool. -/
abbrev Tool := Job → FileTree → ToolRun

/-- What a tool leaves at its output path. -/
inductive Leaving
  | nothing
  | file (content : Bytes)
  | directory
  deriving DecidableEq, Repr

/-- The tree with something left at a path. -/
def Leaving.apply (left : Leaving) (path : String) (t : FileTree) : FileTree :=
  match left with
  | nothing => t
  | file content => (t.write path content).toOption.getD t
  | directory => (t.makeDirectory path).toOption.getD t

/-- The tool that touches its output path only. -/
def Tool.leaving (behave : Job → Leaving × Except Fault Unit) : Tool :=
  fun job t => { tree := (behave job).1.apply job.output t, result := (behave job).2 }

namespace Cache

/-- How a store works: where it is, whether it answers from artifacts that are there, and the mode
that the tool works in. -/
structure Settings where
  root : String
  useCache : Bool
  mode : String
  deriving DecidableEq, Repr

/-- What a store works on: the file tree, the time, the number of the process and how many staging
files it has named. -/
structure Store where
  tree : FileTree
  now : Instant
  process : Nat
  staged : Nat := 0
  deriving DecidableEq, Repr

/-- An instrumented body. -/
structure Instrumented where
  body : Bytes
  hit : Bool
  artifact : String
  deriving DecidableEq, Repr

/-- What is recorded about an artifact. -/
structure Metadata where
  url : String
  kind : String
  mode : String
  createdAt : Instant
  deriving DecidableEq, Repr

namespace Metadata

/-- The recorded form of metadata. -/
def toJson (m : Metadata) : Json :=
  .record
    [("url", .text m.url), ("kind", .text m.kind), ("mode", .text m.mode),
     ("created_at", .text (m.createdAt.text "Z"))]

/-- Read recorded metadata. -/
def ofJson? (v : Json) : Option Metadata :=
  match v.fields? ["url", "kind", "mode", "created_at"] with
  | some [url, kind, mode, createdAt] => do
    return {
      url := ← Json.required Json.text? url
      kind := ← Json.required Json.text? kind
      mode := ← Json.required Json.text? mode
      createdAt := ← (← Json.required Json.text? createdAt) |> Instant.read? }
  | _ => none

/-- The metadata of a file's content. -/
def read? (content : Bytes) : Option Metadata :=
  match Utf8.decode? content with
  | none => none
  | some _ => (Json.read? content).bind ofJson?

end Metadata

/-! ## The files of an artifact -/

/-- The directory of a key below a root. -/
def Key.directory (key : Key) (root : String) : String :=
  Path.join (Path.join root key.host) key.hash

/-- The file name of an artifact. -/
def artifactFile (name : String) (kind : Kind) : String := name ++ "." ++ kind.extension

/-- The file name of an artifact's source. -/
def sourceFile (name : String) (kind : Kind) : String := artifactFile name kind ++ ".src"

/-- The path of an artifact's metadata. -/
def metadataPath (artifact : String) : String := artifact ++ ".json"

/-- The file name of a staging file. -/
def stagingFile (name : String) (kind : Kind) (process number : Nat) : String :=
  "." ++ artifactFile name kind ++ "." ++ toString process ++ "-" ++ toString number ++ ".tmp"

/-- What a call works with: the source and the paths of its files. -/
structure Call where
  source : Bytes
  directory : String
  artifact : String
  sourcePath : String
  staging : String
  deriving DecidableEq, Repr

/-- The paths for a request's body. -/
def Call.of (settings : Settings) (store : Store) (request : Request) (body : Bytes)
    (kind : Kind) : Call :=
  let source := normalize body
  let directory := (Key.of request.host source).directory settings.root
  let name := artifactName request.pathComponents
  { source
    directory
    artifact := Path.join directory (artifactFile name kind)
    sourcePath := Path.join directory (sourceFile name kind)
    staging := Path.join directory (stagingFile name kind store.process store.staged) }

/-! ## Instrumenting -/

/-- What a call answers: the store it leaves, what it handed out, and its result. -/
structure Answer (α : Type) where
  store : Store
  trace : Trace := {}
  result : Except Fault α

/-- An answer after something else was handed out. -/
def Answer.after {α : Type} (a : Answer α) (earlier : Trace) : Answer α :=
  { a with trace := earlier ++ a.trace }

/-- Answer from an artifact that is there. -/
def answerHit (store : Store) (artifact url : String) : Answer Instrumented :=
  let trace := Trace.info ("Cache hit: " ++ artifact ++ " from " ++ url)
  match store.tree.read artifact with
  | .ok body => { store, trace, result := .ok ⟨body, true, artifact⟩ }
  | .error _ => { store, trace, result := .error (.io ("reading artifact " ++ artifact)) }

/-- Move what a run of the tool wrote to the artifact's place. -/
def publish (job : Job) (artifact : String) (run : ToolRun) : FileTree × Except Fault Bytes :=
  let tree := run.tree
  match run.result with
  | .error fault => (tree, .error fault)
  | .ok () =>
    match tree.read job.output with
    | .error .missing => (tree, .error (.missingArtifact artifact))
    | .error _ => (tree, .error (.io ("reading " ++ job.output)))
    | .ok body =>
      match tree.rename job.output artifact with
      | .error _ => (tree, .error (.io ("publishing " ++ artifact)))
      | .ok tree => (tree, .ok body)

/-- Record metadata beside an artifact. A failure to do so is logged and otherwise ignored. -/
def recordMetadata (tree : FileTree) (artifact : String) (m : Metadata) : FileTree × Trace :=
  let path := metadataPath artifact
  match tree.write path (Bytes.ofText m.toJson.pretty) with
  | .ok tree => (tree, {})
  | .error e => (tree, Trace.warn ("Failed to write " ++ path ++ ": " ++ e.text))

/-- Run the tool for a call whose directory and source are in place. -/
def runTool (settings : Settings) (tool : Tool) (store : Store) (call : Call) (kind : Kind)
    (url : String) : Answer Instrumented :=
  let job : Job :=
    { kind, source := call.source, output := call.staging, mode := settings.mode, url }
  let store := { store with staged := store.staged + 1 }
  let run := tool job store.tree
  let ran : Trace := { log := run.log, jobs := [job] }
  match publish job call.artifact run with
  | (tree, .error fault) =>
    let tree := (tree.remove call.staging).toOption.getD tree
    { store := { store with tree }, trace := ran, result := .error fault }
  | (tree, .ok body) =>
    let m : Metadata := ⟨url, kind.extension, settings.mode, store.now⟩
    let (tree, noted) := recordMetadata tree call.artifact m
    { store := { store with tree }, trace := ran ++ noted
      result := .ok ⟨body, false, call.artifact⟩ }

/-- Instrument a body without looking for an artifact. -/
def answerMiss (settings : Settings) (tool : Tool) (store : Store) (call : Call) (kind : Kind)
    (url : String) : Answer Instrumented :=
  let missed := Trace.debug ("Cache miss: " ++ call.artifact ++ " from " ++ url)
  match store.tree.makeDirectories call.directory with
  | .error _ =>
    { store := { store with tree := store.tree.grow call.directory }, trace := missed
      result := .error (.io ("creating " ++ call.directory)) }
  | .ok tree =>
    let store := { store with tree }
    match tree.write call.sourcePath call.source with
    | .error _ => { store, trace := missed, result := .error (.io ("writing " ++ call.sourcePath)) }
    | .ok tree => (runTool settings tool { store with tree } call kind url).after missed

/-- The instrumented form of a request's body. -/
def instrument (settings : Settings) (tool : Tool) (store : Store) (request : Request)
    (body : Bytes) (kind : Kind) : Answer Instrumented :=
  let call := Call.of settings store request body kind
  let answer :=
    if settings.useCache && store.tree.isFile call.artifact then
      answerHit store call.artifact request.clientUrl
    else answerMiss settings tool store call kind request.clientUrl
  answer.after (.normalizing body)

end Cache

end Interpose
