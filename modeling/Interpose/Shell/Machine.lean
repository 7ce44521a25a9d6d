import Interpose.Files.Tree
import Interpose.Text.Utf8
import Interpose.Shell.Script

/-!
# The state of a shell

A shell works on a *machine*: the file tree, the clock, the unread input, what has been written, and
its own variables and parameters. Descriptors lead to *sinks*: nowhere, to a file, or into one of
the machine's buffers, of which the first two are the outputs of the process and the others hold
what a pipeline or a substitution collects.

An action changes the machine and either yields a value or leaves: the script ends, a loop is
broken, the process is killed, or time runs out.
-/

namespace Interpose.Shell

/-- Where output goes. -/
inductive Sink
  | nowhere
  | buffer (n : Nat)
  | file (path : String)
  deriving DecidableEq, Repr

/-- Why a command does not simply come to its end. -/
inductive Leave
  | exit (status : Nat)
  | broken (loops : Nat)
  | continued (loops : Nat)
  | returned (status : Nat)
  /-- A signal ended the process of that number. -/
  | killed (process signal : Nat)
  /-- Time or fuel ran out. -/
  | late
  deriving DecidableEq, Repr

/-- The state of a shell. -/
structure Machine where
  tree : FileTree
  /-- Milliseconds since the start, and the most there may be. -/
  clock : Nat := 0
  limit : Option Nat := none
  input : Bytes := []
  /-- What has been written to the buffers, last byte first. -/
  buffers : Array Bytes := #[[], []]
  sinks : List (Nat × Sink) := [(1, .buffer 0), (2, .buffer 1)]
  bindings : List (String × Bytes) := []
  exported : List String := []
  functions : List (String × Command) := []
  /-- The name of the shell or script, and the positional parameters. -/
  name : Bytes := Bytes.ofText "sh"
  arguments : List Bytes := []
  status : Nat := 0
  process : Nat := 4243
  /-- Whether a failing command ends the script. -/
  strict : Bool := false
  /-- What to run when the shell exits. -/
  atExit : Option String := none

/-- An action on a machine. -/
abbrev Act := ExceptT Leave (StateM Machine)

/-! ## Variables -/

/-- The value of a variable. -/
def Machine.get? (m : Machine) (name : String) : Option Bytes :=
  (m.bindings.find? (·.1 == name)).map (·.2)

/-- The machine with a value for a variable. -/
def Machine.assign (m : Machine) (name : String) (value : Bytes) : Machine :=
  { m with bindings := (name, value) :: m.bindings.filter (·.1 != name) }

/-- Give a variable a value. -/
def assign (name : String) (value : Bytes) : Act Unit := modify (·.assign name value)

/-- The machine without a variable. -/
def Machine.forget (m : Machine) (name : String) : Machine :=
  { m with
    bindings := m.bindings.filter (·.1 != name), exported := m.exported.filter (· != name) }

/-- The machine with a variable that programs see. -/
def Machine.export (m : Machine) (name : String) : Machine :=
  { m with exported := name :: m.exported.filter (· != name) }

/-- The variables that programs see. -/
def Machine.environment (m : Machine) : List (String × Bytes) :=
  m.bindings.filter fun v => m.exported.contains v.1

/-! ## Output -/

/-- The sink that a descriptor leads to. -/
def Machine.sink (m : Machine) (descriptor : Nat) : Sink :=
  ((m.sinks.find? (·.1 == descriptor)).map (·.2)).getD .nowhere

/-- The machine with a descriptor leading to a sink. -/
def Machine.lead (m : Machine) (descriptor : Nat) (sink : Sink) : Machine :=
  { m with sinks := (descriptor, sink) :: m.sinks.filter (·.1 != descriptor) }

/-- The machine after writing to a sink. -/
def Machine.put (m : Machine) (content : Bytes) : Sink → Machine
  | .nowhere => m
  | .buffer n => { m with buffers := m.buffers.modify n fun b => content.reverse ++ b }
  | .file path =>
    let old := (m.tree.read path).toOption.getD []
    { m with tree := (m.tree.write path (old ++ content)).toOption.getD m.tree }

/-- Open a path for writing; what stands there is kept or dropped. -/
def openSink (path : String) (keep : Bool) : Act (Except Obstacle Sink) := do
  let m ← get
  match path with
  | "/dev/null" => return .ok .nowhere
  | "/dev/stdout" => return .ok (m.sink 1)
  | "/dev/stderr" => return .ok (m.sink 2)
  | _ =>
    match m.tree.walk path with
    | .error e => return .error e
    | .ok place =>
      let full := "/" ++ "/".intercalate place
      let old := if keep then (m.tree.read full).toOption.getD [] else []
      match m.tree.write full old with
      | .error e => return .error e
      | .ok tree =>
        set { m with tree }
        return .ok (.file full)

/-- Write to a descriptor. -/
def write (descriptor : Nat) (content : Bytes) : Act Unit :=
  modify fun m => m.put content (m.sink descriptor)

/-- Write to the output. -/
def say (content : Bytes) : Act Unit := write 1 content

/-- Write a text and a line break to the output. -/
def sayLine (content : Bytes) : Act Unit := write 1 (content ++ [10])

/-- Write a line about something that went wrong. -/
def complain (text : String) : Act Unit := write 2 (Bytes.ofText text ++ [10])

/-- Write a line about something that went wrong in the shell itself. -/
def complainHere (text : String) : Act Unit := do
  write 2 ((← get).name ++ Bytes.ofText (": 1: " ++ text) ++ [10])

/-- Run an action with descriptor 1 leading into a new buffer; answer what it wrote there. -/
def collect {α : Type} (act : Act α) : Act (α × Bytes) := do
  let before ← get
  let n := before.buffers.size
  set { before.lead 1 (.buffer n) with buffers := before.buffers.push [] }
  let result ← ExceptT.lift (ExceptT.run act)
  let after ← get
  let written := (after.buffers[n]?.getD []).reverse
  set { after with buffers := after.buffers.pop, sinks := before.sinks }
  match result with
  | .ok a => return (a, written)
  | .error leave => throw leave

/-! ## Input -/

/-- Take all that is left of the input. -/
def readAll : Act Bytes := modifyGet fun m => (m.input, { m with input := [] })

/-- The content of a file; the bare hyphen names the input. -/
def contentOf (path : Bytes) : Act (Except Obstacle Bytes) := do
  match Utf8.decodeLossy path with
  | "-" | "/dev/stdin" => return .ok (← readAll)
  | "/dev/null" => return .ok []
  | path => return (← get).tree.read path

/-! ## Time -/

/-- Let time pass. -/
def wait (milliseconds : Nat) : Act Unit := do
  let m ← get
  let clock := m.clock + milliseconds
  if m.limit.any (· ≤ clock) then throw .late else set { m with clock }

/-- Run an action and put the shell's own state back afterwards. What it did to files, input,
output and the clock stays. -/
def apart {α : Type} (act : Act α) : Act α := do
  let before ← get
  let result ← ExceptT.lift (ExceptT.run act)
  modify fun m =>
    { m with
      sinks := before.sinks, bindings := before.bindings, exported := before.exported
      functions := before.functions, name := before.name, arguments := before.arguments
      process := before.process, strict := before.strict, atExit := before.atExit
      tree := { m.tree with workingDirectory := before.tree.workingDirectory } }
  match result with
  | .ok a => return a
  | .error leave => throw leave

/-- Run an action to its end, which leaving it is too unless the process ends; yields the status. -/
def endStatus (act : Act Unit) : Act Nat :=
  tryCatch (do act; return (← get).status) fun leave =>
    match leave with
    | .exit n | .returned n => return n
    | .broken _ | .continued _ => return (← get).status
    | .killed _ _ | .late => throw leave

/-- Run an action of a subshell. Its status is left in the machine. -/
def apartStatus (act : Act Unit) : Act Unit := do
  let n ← apart (endStatus act)
  modify fun m => { m with status := n }

end Interpose.Shell
