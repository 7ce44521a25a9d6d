import Interpose.Cache.Store
import Interpose.Config.Schema
import Interpose.Text.Blank

/-!
# Programs as tool and checker

The instrumentation tool and the syntax checker are programs: a command from the configuration, to
which the arguments of a call are added. A program reads its input, may change the file tree, and
ends with an exit code or by a signal; or it cannot be started, or runs over its limit.

What programs there are is a parameter, `Programs`. `runProgram` turns an attempt into a result or
a fault, `programTool` and `programChecker` make a tool and a checker of a command.

Two kinds of program are told apart. The tool is there to change files: it starts from the tree that
the cache left, and the cache goes on with the tree it leaves. The checker is there for its verdict,
which is taken to depend on its input alone; a checker that reads or writes files is outside the
scope of the model.
-/

namespace Interpose

/-- A program to run: its name and arguments, what is added to its environment, its input, and the
longest run in milliseconds. -/
structure Invocation where
  argv : List String
  env : List (String × String) := []
  input : Bytes := []
  limit : Option Nat := none
  deriving DecidableEq, Repr

/-- How a program ended. -/
inductive Ending
  | exited (code : Nat)
  | killed
  deriving DecidableEq, Repr

/-- The exit code, if the program was not killed. -/
def Ending.code? : Ending → Option Int
  | exited code => some code
  | killed => none

/-- What a program left: how it ended and what it wrote to its two outputs. -/
structure Captured where
  ending : Ending
  out : Bytes
  err : Bytes
  deriving DecidableEq, Repr

/-- Whether the program succeeded. -/
def Captured.success (c : Captured) : Bool := c.ending == .exited 0

/-- Both outputs as one text. -/
def Captured.combined (c : Captured) : String := Utf8.decodeLossy c.out ++ Utf8.decodeLossy c.err

/-- What became of running a program. -/
inductive Attempt
  | finished (captured : Captured)
  /-- The program could not be started. -/
  | refused
  /-- The program ran over its limit. -/
  | late
  deriving DecidableEq, Repr

/-- The programs that can be run, and what they do to the file tree. -/
abbrev Programs := Invocation → FileTree → FileTree × Attempt

/-- A run of a program: the file tree it leaves, what was logged, and its result. -/
structure ProgramRun where
  tree : FileTree
  log : List Event := []
  result : Except Fault Captured

/-- A command as it is shown. -/
def commandText (argv : List String) : String := " ".intercalate argv

/-- Run the command configured for a purpose with further arguments. -/
def runProgram (programs : Programs) (purpose : String) (command arguments : List String)
    (env : List (String × String)) (input : Bytes) (limit : Option Nat) (tree : FileTree) :
    ProgramRun :=
  match command with
  | [] => { tree, result := .error (.emptyCommand purpose) }
  | _ :: _ =>
    let argv := command ++ arguments
    let shown := commandText argv
    let log := (Trace.debug ("Executing: " ++ shown)).log
    match programs { argv, env, input, limit } tree with
    | (tree, .finished captured) => { tree, log, result := .ok captured }
    | (tree, .refused) => { tree, log, result := .error (.commandFailed shown) }
    | (tree, .late) => { tree, log, result := .error (.toolTimeout shown (limit.getD 0 / 1000)) }

/-- A limit in seconds as one in milliseconds; zero stands for none. -/
def limitOf (secs : Nat) : Option Nat := (timeLimit secs).map (· * 1000)

/-! ## The tool -/

/-- The arguments of a job. -/
def jobArguments (job : Job) : List String := ["--kind", job.kind.extension, "--o", job.output]

/-- What is added to the environment for a job. -/
def jobEnvironment (job : Job) : List (String × String) :=
  [("INITRACER_MODE", job.mode), ("INITRACER_URL", job.url)]

/-- How many characters of a failed tool's output are kept. -/
def outputLimit : Nat := 2000

/-- The fault of a tool that ended unsuccessfully. -/
def toolFailure (argv : List String) (c : Captured) : Fault :=
  .toolExit (commandText argv) c.ending.code?
    (String.ofList (c.combined.toList.take outputLimit))

/-- What a successful tool's output notes in the log. -/
def outputNote (c : Captured) : List Event :=
  let text := c.combined.toList
  let kept := (text.reverse.dropWhile Blank.isBlank).reverse
  if kept.isEmpty then [] else (Trace.debug ("instrument: " ++ String.ofList kept)).log

/-- The tool that runs a command. -/
def programTool (programs : Programs) (command : List String) (limit : Option Nat) : Tool :=
  fun job tree =>
    let run := runProgram programs "instrument" command (jobArguments job) (jobEnvironment job)
      job.source limit tree
    match run.result with
    | .error fault => { tree := run.tree, log := run.log, result := .error fault }
    | .ok c =>
      if c.success then
        { tree := run.tree, log := run.log ++ outputNote c, result := .ok () }
      else
        { tree := run.tree, log := run.log
          result := .error (toolFailure (command ++ jobArguments job) c) }

/-! ## The checker -/

/-- The word by which a checker reports a syntax error. -/
def errorMark : String := "SyntaxError"

/-- The checker that runs a command. A source that cannot be checked counts as faulty.

A checker is taken to depend on its input only: every run finds the same `tree`, whatever was
written between two runs, and what a run does to that tree is dropped. -/
def programChecker (programs : Programs) (command : List String) (limit : Option Nat)
    (tree : FileTree) : Checker :=
  fun source =>
    let run := runProgram programs "syntax" command [] [] (normalize source) limit tree
    let log := (Trace.normalizing source).log ++ run.log
    match run.result with
    | .ok c => { faulty := hasText c.combined errorMark, log }
    | .error fault =>
      { faulty := true
        log := log ++ (Trace.warn ("Syntax check failed: " ++ fault.message)).log }

end Interpose
