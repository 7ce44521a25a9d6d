import Interpose.Kind
import Interpose.Text.Utf16

/-!
# What a run hands to the outside

A run of the proxy speaks to the outside world in three ways: it writes log lines, it hands source
texts to the syntax checker, and it hands jobs to the instrumentation tool. A `Trace` is the record
of the three, each in order, and runs one after the other append their traces.

The checker is a function from a source to a verdict. The tool is described in
`Interpose.Cache.Store`, where there is a file tree for it to work on.
-/

namespace Interpose

/-- How grave a log line is. -/
inductive Level
  | debug
  | info
  | warn
  | error
  deriving DecidableEq, Repr

/-- The word for a level in a log line. -/
def Level.word : Level → String
  | debug => "DEBUG"
  | info => "INFO"
  | warn => "WARN"
  | error => "ERROR"

/-- A log line: its level and message, and the quotation from a body that some lines carry. -/
structure Event where
  level : Level
  message : String
  source : Option String := none
  deriving DecidableEq, Repr

/-- A job for the tool: instrument `source` and write the artifact to the file `output`. -/
structure Job where
  kind : Kind
  source : Bytes
  output : String
  mode : String
  url : String
  deriving DecidableEq, Repr

/-- What a run hands to the outside, in order. -/
structure Trace where
  log : List Event := []
  checked : List Bytes := []
  jobs : List Job := []
  deriving DecidableEq, Repr

namespace Trace

instance : Append Trace :=
  ⟨fun a b => ⟨a.log ++ b.log, a.checked ++ b.checked, a.jobs ++ b.jobs⟩⟩

/-- A single log line. -/
def note (level : Level) (message : String) (source : Option String) : Trace :=
  { log := [⟨level, message, source⟩] }

/-- A line for those who look into a run. -/
def debug (message : String) : Trace := note .debug message none

/-- An informative line. -/
def info (message : String) : Trace := note .info message none

/-- A warning. -/
def warn (message : String) : Trace := note .warn message none

/-- An error line. -/
def error (message : String) : Trace := note .error message none

/-- What normalizing a source notes: a byte order mark before text that is not UTF-16. -/
def normalizing (source : Bytes) : Trace :=
  match Utf16.detect source with
  | none => {}
  | some order =>
    match Utf16.decode? order (source.drop 2) with
    | some _ => {}
    | none => debug ("Malformed " ++ order.word ++ " UTF-16 body, passing through undecoded")

@[simp] theorem jobs_append (a b : Trace) : (a ++ b).jobs = a.jobs ++ b.jobs := rfl

@[simp] theorem jobs_note (level : Level) (message : String) (source : Option String) :
    (note level message source).jobs = [] := rfl

theorem jobs_normalizing (source : Bytes) : (normalizing source).jobs = [] := by
  unfold normalizing
  split
  · rfl
  · split <;> rfl

@[simp] theorem checked_append (a b : Trace) : (a ++ b).checked = a.checked ++ b.checked := rfl

@[simp] theorem checked_note (level : Level) (message : String) (source : Option String) :
    (note level message source).checked = [] := rfl

theorem checked_normalizing (source : Bytes) : (normalizing source).checked = [] := by
  unfold normalizing
  split
  · rfl
  · split <;> rfl

end Trace

/-- What a checker says of a source: whether it found a syntax error, and what it logged. -/
structure Verdict where
  faulty : Bool
  log : List Event := []
  deriving DecidableEq, Repr

/-- A syntax checker: its verdict on a source depends on the source only. -/
abbrev Checker := Bytes → Verdict

end Interpose
