import Interpose.Config.Schema
import Interpose.Fault
import Interpose.Text.Blank

/-!
# Keys of the configuration

Each field of the configuration has a key, by which a user names it, and a way to read a new value
for it from a text. The names are listed for the user (`Key.all`), and a name that is given is looked
up part by part (`Key.named?`).
-/

namespace Interpose.Config

/-- A field of the configuration. -/
inductive Key
  | verbose
  | logFormat
  | mode
  | useCache
  | cacheDirectory
  | toolCommand
  | toolTimeout
  | html
  | script
  | checkerCommand
  | checkerTimeout
  deriving DecidableEq, Repr

/-- All keys, in the order of the fields. -/
def Key.all : List Key :=
  [verbose, logFormat, mode, useCache, cacheDirectory, toolCommand, toolTimeout, html, script,
    checkerCommand, checkerTimeout]

/-- The name of a key. -/
def Key.name : Key → String
  | verbose => "general.verbose"
  | logFormat => "general.log_format"
  | mode => "instrument.mode"
  | useCache => "instrument.use_cache"
  | cacheDirectory => "instrument.cache_dir"
  | toolCommand => "instrument.command"
  | toolTimeout => "instrument.timeout_secs"
  | html => "instrument.html"
  | script => "instrument.javascript"
  | checkerCommand => "syntax.command"
  | checkerTimeout => "syntax.timeout_secs"

/-- The key of the parts of a name: a section, and a field in it. -/
def Key.ofParts? : List String → Option Key
  | ["general", "verbose"] => some verbose
  | ["general", "log_format"] => some logFormat
  | ["instrument", "mode"] => some mode
  | ["instrument", "use_cache"] => some useCache
  | ["instrument", "cache_dir"] => some cacheDirectory
  | ["instrument", "command"] => some toolCommand
  | ["instrument", "timeout_secs"] => some toolTimeout
  | ["instrument", "html"] => some html
  | ["instrument", "javascript"] => some script
  | ["syntax", "command"] => some checkerCommand
  | ["syntax", "timeout_secs"] => some checkerTimeout
  | _ => none

/-- The key of a name, which is taken apart at its dots. -/
def Key.named? (name : String) : Option Key := ofParts? (splitText '.' name)

theorem Key.mem_all (k : Key) : k ∈ all := by cases k <;> decide

theorem Key.named?_name (k : Key) : named? k.name = some k := by cases k <;> decide

/-! ## Values -/

/-- A truth value. -/
def flag (value : String) : Except Fault Bool :=
  let word := lowerText value
  if word = "true" ∨ word = "1" ∨ word = "yes" then .ok true
  else if word = "false" ∨ word = "0" ∨ word = "no" then .ok false
  else .error (.user ("Invalid boolean value: " ++ value ++ ". Use true/false"))

/-- The value of a text of decimal digits. -/
def decimal? (digits : List Char) : Option Nat :=
  if digits.isEmpty || digits.any (!·.isDigit) then none
  else some (digits.foldl (fun n c => n * 10 + (c.toNat - 0x30)) 0)

/-- A number of at most 64 bits; a plus sign may stand before it. -/
def count (value : String) : Except Fault Nat :=
  let digits := match value.toList with
    | '+' :: rest => rest
    | s => s
  match decimal? digits with
  | some n =>
    if n < 0x10000000000000000 then .ok n else .error (.user ("Invalid number: " ++ value))
  | none => .error (.user ("Invalid number: " ++ value))

/-- A command: words between blanks, at least one. -/
def command (value : String) : Except Fault (List String) :=
  match Blank.words value with
  | [] => .error (.user "Command must not be empty")
  | words => .ok words

/-- The configuration with a new value for a field. -/
def assign (c : Config) (value : String) : Key → Except Fault Config
  | .verbose => do return { c with general.verbose := ← flag value }
  | .logFormat => .ok { c with general.logFormat := value }
  | .mode => .ok { c with tool.mode := value }
  | .useCache => do return { c with tool.useCache := ← flag value }
  | .cacheDirectory => .ok { c with tool.cacheDirectory := value }
  | .toolCommand => do return { c with tool.command := ← command value }
  | .toolTimeout => do return { c with tool.timeoutSecs := ← count value }
  | .html => do return { c with tool.html := ← flag value }
  | .script => do return { c with tool.script := ← flag value }
  | .checkerCommand => do return { c with checker.command := ← command value }
  | .checkerTimeout => do return { c with checker.timeoutSecs := ← count value }

/-- The configuration with a new value for the field that a key names. -/
def set (c : Config) (key value : String) : Except Fault Config :=
  match Key.named? key with
  | none => .error (.user ("Unknown config key: " ++ key))
  | some k => c.assign value k

end Interpose.Config
