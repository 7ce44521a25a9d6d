import Interpose.Cache.Listing
import Interpose.CommandLine.Log
import Interpose.CommandLine.Reader
import Interpose.Config.File
import Interpose.Config.Key
import Interpose.Pass
import Interpose.Program

/-!
# Running a command

A command is carried out in a *world*: a file tree, an environment, the time and the programs that
can be run. It leaves another file tree, what it wrote to its two outputs, and an exit code: 0 when
it was carried out, 1 when it failed, 2 when the command line is not well formed.

Commands that work on the configuration file itself must work when the file cannot be read, so they
do not read it; all others read it first, and options of the command line take precedence over it.
-/

namespace Interpose.CommandLine

/-- What a run finds. -/
structure World where
  tree : FileTree
  environment : List (String × String) := []
  now : Instant
  /-- The number of the process. -/
  process : Nat
  programs : Programs

/-- What a run leaves. -/
structure Finish where
  tree : FileTree
  out : String := ""
  err : String := ""
  code : Nat
  deriving DecidableEq, Repr

/-- What a command does: the file tree it leaves, what it prints, what it logs, and its result. -/
structure Report where
  tree : FileTree
  out : String := ""
  log : List Event := []
  result : Except Fault Unit := .ok ()

/-- A line of output. -/
def line (s : String) : String := s ++ "\n"

/-- A line about a step that succeeded. -/
def okLine (message : String) : String := line ("  [OK] " ++ message)

/-- A line about a step that needs attention. -/
def warnLine (message : String) : String := line ("  [WARN] " ++ message)

/-- A line about a step that failed. -/
def failLine (message detail : String) : String := line ("  [FAIL] " ++ message ++ ": " ++ detail)

/-- A remark. -/
def remark (message : String) : String := line ("  " ++ message)

/-! ## Replaying flows -/

/-- The flow that a file holds. -/
def loadFlow (t : FileTree) (path : String) : Except Fault Flow :=
  match t.read path with
  | .error _ => .error (.io ("reading " ++ path))
  | .ok content =>
    match Flow.read? content with
    | none => .error (.invalidFlow path "not a flow")
    | some f => .ok f

/-- The proxy that a configuration describes. Its checker is taken to depend on its input only
(`programChecker`): for every flow of the command it finds the tree of the command's start. -/
def proxyOf (w : World) (c : Config) : Proxy where
  settings := ⟨c.tool.cacheDirectory, c.tool.useCache, c.tool.mode⟩
  switches := ⟨c.tool.html, c.tool.script⟩
  tool := programTool w.programs c.tool.command (limitOf c.tool.timeoutSecs)
  checker := programChecker w.programs c.checker.command (limitOf c.checker.timeoutSecs) w.tree

/-- What setting up the proxy notes in the log. -/
def proxyNote (c : Config) : Trace :=
  .debug ("Rewriter: mode=" ++ c.tool.mode ++ ", use_cache=" ++ toString c.tool.useCache ++
    ", cache_dir=" ++ c.tool.cacheDirectory)

/-- Replay flows one after the other, each on the store that the one before left. -/
def replayAll (proxy : Proxy) (store : Cache.Store) :
    List Flow → Cache.Store × List Event × List Flow
  | [] => (store, [], [])
  | f :: rest =>
    let r := f.replay proxy store
    let (store, log, flows) := replayAll proxy r.store rest
    (store, r.trace.log ++ log, r.flow :: flows)

/-- The line about a flow that was written to a file. -/
def writtenLine (path : String) (f : Flow) : String :=
  match f.error, f.response with
  | some error, _ => failLine path error
  | none, some r =>
    okLine (path ++ " (" ++ toString r.status ++ " " ++ toString r.body.length ++ " bytes)")
  | none, none => warnLine (path ++ " - no response recorded")

/-- Write flows to files of a directory, each under the name of the file it came from. -/
def writeEach (directory : String) (t : FileTree) (out : String) :
    List (String × Flow) → Report
  | [] => { tree := t, out }
  | (path, f) :: rest =>
    match Path.fileName? path with
    | none => { tree := t, out, result := .error (.invalidFlow path "not a file") }
    | some name =>
      let target := Path.join directory name
      match t.write target (Bytes.ofText f.pretty) with
      | .error _ => { tree := t, out, result := .error (.io ("writing " ++ target)) }
      | .ok t => writeEach directory t (out ++ writtenLine path f) rest

/-- Write flows to a directory. -/
def writeFlows (directory : String) (t : FileTree) (flows : List (String × Flow)) : Report :=
  match t.makeDirectories directory with
  | .error _ => { tree := t.grow directory, result := .error (.io ("creating " ++ directory)) }
  | .ok t =>
    let r := writeEach directory t "" flows
    match r.result with
    | .error _ => r
    | .ok () =>
      { r with out := r.out ++
          remark (toString flows.length ++ " flow(s) written to " ++ directory) }

/-- The lines of replayed flows. -/
def printFlows (flows : List Flow) : String := String.join (flows.map fun f => line f.compact)

/-- Replay the flows in files. All files are read before the first flow is replayed.

The flows are replayed one after the other in the order of the command line, which is the schedule
of one job at a time, whatever `jobs` is: the number is only noted in the log. Schedules that
overlap the replays of several flows are not modelled. -/
def rewrite (w : World) (c : Config) (paths : List String) (jobs : Nat) (out : Option String) :
    Report :=
  match paths.mapM (loadFlow w.tree) with
  | .error fault => { tree := w.tree, result := .error fault }
  | .ok flows =>
    let start := Trace.debug <|
      "Rewriting " ++ toString flows.length ++ " flow(s), " ++ toString jobs ++ " at a time"
    let (store, log, flows) := replayAll (proxyOf w c) ⟨w.tree, w.now, w.process, 0⟩ flows
    let log := (proxyNote c ++ start).log ++ log
    match out with
    | none => { tree := store.tree, log, out := printFlows flows }
    | some directory => { writeFlows directory store.tree (paths.zip flows) with log }

/-! ## Classifying a body -/

/-- A decision as lines. -/
def decisionText (d : Decision) : String :=
  let declared := if d.declared = "" then "(none)" else d.declared
  let kind := "Kind: " ++ Kind.word d.kind
  remark ("Declared: " ++ declared) ++
    (if d.mismatches.isEmpty then okLine kind else warnLine kind) ++
    String.join (d.mismatches.map fun m => warnLine ("Body " ++ m.text))

/-- A decision as JSON. -/
def decisionJson (d : Decision) : Json :=
  .record
    [("kind", .text (Kind.word d.kind)), ("declared", .text d.declared),
     ("warnings", .array (d.mismatches.map fun m => .text m.text))]

/-- Classify the body in a file. -/
def classify (w : World) (c : Config) (file : String) (contentType : Option String) (url : String)
    (format : AnswerFormat) : Report :=
  match w.tree.read file with
  | .error _ => { tree := w.tree, result := .error (.io ("reading " ++ file)) }
  | .ok body =>
    let (d, trace) := Classification.classify (proxyOf w c).checker url body contentType
    let out := match format with
      | .table => decisionText d
      | .json => line (decisionJson d).pretty
      | .plain => line (Kind.word d.kind)
    { tree := w.tree, out, log := trace.log }

/-! ## The store -/

/-- The row of an artifact in a table, or of its headings. -/
def row (host hash artifact mode created : String) : String :=
  line <| " ".intercalate
    [padRight 28 host, padRight 34 hash, padRight 24 artifact, padRight 12 mode,
     padRight 17 created]

/-- Artifacts as a table. -/
def entriesTable (entries : List Cache.Entry) : String :=
  row "HOST" "HASH" "ARTIFACT" "MODE" "CREATED" ++
    line (String.ofList (List.replicate 118 '-')) ++
    String.join (entries.map fun e =>
      let name := (Path.fileName? e.artifact).getD ""
      match e.metadata with
      | some m => row e.host e.hash name m.mode (m.createdAt.dateText ++ " " ++ m.createdAt.minuteText)
      | none => row e.host e.hash name "-" "-") ++
    line "" ++ line ("Total: " ++ toString entries.length ++ " artifact(s)")

/-- An artifact as JSON. -/
def entryJson (e : Cache.Entry) : Json :=
  let m := e.metadata
  .record
    [("host", .text e.host), ("hash", .text e.hash), ("artifact", .text e.artifact),
     ("url", .textOrNull (m.map (·.url))), ("kind", .textOrNull (m.map (·.kind))),
     ("mode", .textOrNull (m.map (·.mode))),
     ("created_at", .textOrNull (m.map (·.createdAt.text "+00:00")))]

/-- List the artifacts in the store. -/
def cacheList (w : World) (root : String) (format : AnswerFormat) : Report :=
  match Cache.listing w.tree root with
  | .error fault => { tree := w.tree, result := .error fault }
  | .ok entries =>
    let out :=
      if entries.isEmpty && format != .json then
        line ("No cached artifacts under " ++ root ++ ".")
      else match format with
        | .table => entriesTable entries
        | .json => line (Json.array (entries.map entryJson)).pretty
        | .plain => String.join (entries.map fun e => line e.artifact)
    { tree := w.tree, out, log := (Cache.listingNote w.tree root entries).log }

/-! ## The configuration -/

/-- Print a configuration. -/
def printConfig (w : World) (c : Config) : Report :=
  match c.print? with
  | none => { tree := w.tree, result := .error .unwritableConfig }
  | some text => { tree := w.tree, out := line text }

/-- Write the default configuration, unless there is a file and no force. -/
def createConfig (w : World) (path : String) (force : Bool) : Report :=
  if w.tree.isThere path && !force then
    { tree := w.tree
      out := warnLine ("Config already exists at " ++ path ++ " - Use --force to overwrite") }
  else
    match ({} : Config).save w.tree path with
    | (tree, .error fault) => { tree, result := .error fault }
    | (tree, .ok ()) =>
      { tree, log := (Config.saveNote path).log
        out := okLine ("Configuration initialized (" ++ path ++ ")") }

/-- What is said about a key or value that is not accepted. -/
def rejection (fault : Fault) : String :=
  failLine "Cannot set config key" fault.message ++ remark "Valid keys:" ++
    String.join (Config.Key.all.map fun k => remark ("  " ++ k.name))

/-- Change a field in the configuration file. -/
def assignConfig (w : World) (path key value : String) : Report :=
  match Config.load w.tree path with
  | .error fault => { tree := w.tree, result := .error fault }
  | .ok c =>
    let loaded := Config.loadNote w.tree path
    match c.set key value with
    | .error fault =>
      { tree := w.tree, log := loaded.log, out := rejection fault, result := .error fault }
    | .ok c =>
      match c.save w.tree path with
      | (tree, .error fault) => { tree, log := loaded.log, result := .error fault }
      | (tree, .ok ()) =>
        { tree, log := (loaded ++ Config.saveNote path).log
          out := okLine ("Set " ++ key ++ " = " ++ value) }

/-- Carry out an action on the configuration. -/
def configure (w : World) (c : Config) (path : String) : ConfigAction → Report
  | .print => printConfig w c
  | .path => { tree := w.tree, out := line path }
  | .create force => createConfig w path force
  | .assign key value => assignConfig w path key value

/-! ## A run -/

/-- The configuration with the options of a command line. -/
def overridden (r : Request) (c : Config) : Config :=
  { c with
    tool.useCache := r.cache || c.tool.useCache
    tool.mode := r.mode.getD c.tool.mode
    tool.cacheDirectory := r.cacheDirectory.getD c.tool.cacheDirectory }

/-- How the log is shown. -/
def logStyle (r : Request) (c : Config) : LogStyle where
  least := threshold (if r.verbose = 0 && c.general.verbose then 1 else r.verbose)
  format := r.logFormat.getD (.named c.general.logFormat)

/-- Carry out a command with the configuration in force. -/
def carryOut (w : World) (path : String) (c : Config) : Command → Report
  | .rewrite flows jobs out => rewrite w c flows jobs out
  | .classify file contentType url format => classify w c file contentType url format
  | .cacheList format => cacheList w c.tool.cacheDirectory format
  | .cachePath => { tree := w.tree, out := line c.tool.cacheDirectory }
  | .config action => configure w c path (action.getD .print)

/-- Whether a command works on the configuration in force. -/
def readsConfig : Command → Bool
  | .config action => (action.getD .print).readsConfig
  | _ => true

/-- The lines about a fault. -/
def faultText (fault : Fault) : String :=
  line ("Error: " ++ fault.message) ++
    (match fault.hint with
      | none => ""
      | some hint => line ("Hint: " ++ hint))

/-- The end of a run that carried out a command. -/
def finish (style : LogStyle) (now : Instant) (r : Report) : Finish :=
  let shown := style.shown now r.log
  match r.result with
  | .ok () => { tree := r.tree, out := r.out, err := shown, code := 0 }
  | .error fault => { tree := r.tree, out := r.out, err := shown ++ faultText fault, code := 1 }

/-- Carry out a request. -/
def carryOutRequest (w : World) (path : String) (r : Request) : Finish :=
  if readsConfig r.command then
    match Config.load w.tree path with
    | .error fault => { tree := w.tree, err := faultText fault, code := 1 }
    | .ok c =>
      let c := overridden r c
      finish (logStyle r c) w.now (carryOut w path c r.command)
  else finish (logStyle r {}) w.now (carryOut w path {} r.command)

/-- The value of a variable of the environment. -/
def World.lookUp? (w : World) (name : String) : Option String :=
  (w.environment.reverse.find? (·.1 == name)).map (·.2)

/-- The path of the configuration file where the command line does not give it. -/
def World.configPath (w : World) : String :=
  Config.defaultPath (Config.directory (w.lookUp? "XDG_CONFIG_HOME") (w.lookUp? "HOME"))

/-- What a command line that is not well formed is answered with. -/
def usageText : String :=
  "Usage: initracer-proxy [OPTIONS] <rewrite|classify|cache|config|help>\n"

/-- Run a command line. -/
def run (w : World) (arguments : List String) : Finish :=
  match read (w.lookUp? "INITRACER_PROXY_CONFIG") arguments with
  | .error .usage => { tree := w.tree, err := usageText, code := 2 }
  | .error .display => { tree := w.tree, out := usageText, code := 0 }
  | .ok r => carryOutRequest w (r.config.getD w.configPath) r

end Interpose.CommandLine
