import Interpose.Bytes

/-!
# What can go wrong

Every operation that can fail answers a `Fault`: the cause, with what is needed to tell a user.
`Fault.message` is the wording, `Fault.hint` the advice that goes with some of the causes. The two
are functions of the cause alone, so a fault can be compared and proved about without its text.
-/

namespace Interpose

/-- Why an operation failed. -/
inductive Fault
  /-- A configuration file does not say a configuration. -/
  | configInvalid (path reason : String)
  /-- The directory of a configuration file cannot be made. -/
  | configDirectory (path cause : String)
  /-- The command configured for a purpose has no words. -/
  | emptyCommand (purpose : String)
  /-- A body cannot be decoded. -/
  | decode (encoding reason : String)
  /-- A flow has seen no response. -/
  | noResponse
  /-- A file does not hold a flow. -/
  | invalidFlow (path reason : String)
  /-- A command cannot be started. -/
  | commandFailed (command : String)
  /-- A command ended unsuccessfully, with its exit code or by a signal. -/
  | toolExit (command : String) (code : Option Int) (output : String)
  /-- A command ran longer than its limit. -/
  | toolTimeout (command : String) (secs : Nat)
  /-- The tool succeeded without leaving an artifact. -/
  | missingArtifact (path : String)
  /-- A file operation failed. -/
  | io (doing : String)
  /-- A configuration holds a number that the file format cannot. -/
  | unwritableConfig
  /-- A request of the user cannot be met. -/
  | user (text : String)
  /-- A broken expectation of the program itself. -/
  | internal (text : String)
  deriving DecidableEq, Repr

namespace Fault

/-- How an unsuccessful command ended. -/
def exitText : Option Int → String
  | some code => "code " ++ toString code
  | none => "signal"

/-- The wording of a fault. -/
def message : Fault → String
  | configInvalid path reason => "Invalid configuration at " ++ path ++ ": " ++ reason
  | configDirectory path cause => "Failed to create config directory " ++ path ++ ": " ++ cause
  | emptyCommand purpose => "Empty command configured for " ++ purpose
  | decode encoding reason => "Failed to decode response body (" ++ encoding ++ "): " ++ reason
  | noResponse => "Flow has no response"
  | invalidFlow path reason => "Invalid flow " ++ path ++ ": " ++ reason
  | commandFailed command => "Command failed: " ++ command
  | toolExit command code output =>
    "Command exited with " ++ exitText code ++ ": " ++ command ++ ": " ++ output
  | toolTimeout command secs => "Command timed out after " ++ toString secs ++ "s: " ++ command
  | missingArtifact path => "Instrumentation produced no artifact at " ++ path
  | io doing => "IO error: " ++ doing
  | unwritableConfig => "TOML serialize error: out-of-range value for u64 type"
  | user text => text
  | internal text => "Internal error: " ++ text

/-- What a user can do about a fault. -/
def hint : Fault → Option String
  | commandFailed _ =>
    some "Check the `command` entries under [instrument] and [syntax] in the config"
  | emptyCommand _ => some "Set a non-empty command array in the config"
  | toolTimeout _ _ => some "Raise `timeout_secs`, or set it to 0 to disable"
  | configInvalid _ _ =>
    some "Fix the file, or recreate it with: initracer-proxy config init --force"
  | _ => none

end Fault

end Interpose
