import Interpose.Toml.Printer
import Interpose.Toml.Reader
import Interpose.Text.Utf8

/-!
# The configuration

Three sections: general matters, the instrumentation tool with its store, and the syntax checker.
Every field has a default, so any part of a configuration file may be missing; what it holds beyond
the known fields is ignored.
-/

namespace Interpose

/-- General matters. -/
structure GeneralConfig where
  verbose : Bool := false
  logFormat : String := "text"
  deriving DecidableEq, Repr

/-- The instrumentation tool and the store of its artifacts. -/
structure ToolConfig where
  mode : String := "observation"
  useCache : Bool := false
  cacheDirectory : String := "cache"
  command : List String := ["node", "src/instrument.js"]
  /-- The longest run of the tool; zero stands for no limit. -/
  timeoutSecs : Nat := 120
  html : Bool := true
  script : Bool := true
  deriving DecidableEq, Repr

/-- The syntax checker. -/
structure CheckerConfig where
  command : List String := ["node", "mitmproxy/parse-js.js"]
  /-- The longest run of the checker; zero stands for no limit. -/
  timeoutSecs : Nat := 30
  deriving DecidableEq, Repr

/-- The configuration. -/
structure Config where
  general : GeneralConfig := {}
  tool : ToolConfig := {}
  checker : CheckerConfig := {}
  deriving DecidableEq, Repr

/-! ## Reading -/

/-- Read the section of general matters. -/
def GeneralConfig.ofToml? (v : Toml) : Option GeneralConfig := do
  let default : GeneralConfig := {}
  match ← v.fields? ["verbose", "log_format"] with
  | [verbose, logFormat] =>
    return {
      verbose := ← Toml.withDefault default.verbose Toml.boolean? verbose
      logFormat := ← Toml.withDefault default.logFormat Toml.text? logFormat }
  | _ => none

/-- Read the section of the tool. -/
def ToolConfig.ofToml? (v : Toml) : Option ToolConfig := do
  let default : ToolConfig := {}
  match ← v.fields?
    ["mode", "use_cache", "cache_dir", "command", "timeout_secs", "html", "javascript"] with
  | [mode, useCache, cacheDirectory, command, timeoutSecs, html, script] =>
    return {
      mode := ← Toml.withDefault default.mode Toml.text? mode
      useCache := ← Toml.withDefault default.useCache Toml.boolean? useCache
      cacheDirectory := ← Toml.withDefault default.cacheDirectory Toml.text? cacheDirectory
      command := ← Toml.withDefault default.command Toml.texts? command
      timeoutSecs := ← Toml.withDefault default.timeoutSecs Toml.nat? timeoutSecs
      html := ← Toml.withDefault default.html Toml.boolean? html
      script := ← Toml.withDefault default.script Toml.boolean? script }
  | _ => none

/-- Read the section of the checker. -/
def CheckerConfig.ofToml? (v : Toml) : Option CheckerConfig := do
  let default : CheckerConfig := {}
  match ← v.fields? ["command", "timeout_secs"] with
  | [command, timeoutSecs] =>
    return {
      command := ← Toml.withDefault default.command Toml.texts? command
      timeoutSecs := ← Toml.withDefault default.timeoutSecs Toml.nat? timeoutSecs }
  | _ => none

namespace Config

/-- Read a configuration. -/
def ofToml? (v : Toml) : Option Config := do
  match ← v.fields? ["general", "instrument", "syntax"] with
  | [general, tool, checker] =>
    return {
      general := ← Toml.withDefault {} GeneralConfig.ofToml? general
      tool := ← Toml.withDefault {} ToolConfig.ofToml? tool
      checker := ← Toml.withDefault {} CheckerConfig.ofToml? checker }
  | _ => none

/-- The configuration that a text says. -/
def read? (text : String) : Option Config := (Toml.read? text).bind ofToml?

/-! ## Printing -/

/-- The tables of a configuration. -/
def tables (c : Config) : List (String × List (String × Toml.Setting)) :=
  [("general",
     [("verbose", .flag c.general.verbose), ("log_format", .text c.general.logFormat)]),
   ("instrument",
     [("mode", .text c.tool.mode), ("use_cache", .flag c.tool.useCache),
      ("cache_dir", .text c.tool.cacheDirectory), ("command", .texts c.tool.command),
      ("timeout_secs", .count c.tool.timeoutSecs), ("html", .flag c.tool.html),
      ("javascript", .flag c.tool.script)]),
   ("syntax",
     [("command", .texts c.checker.command), ("timeout_secs", .count c.checker.timeoutSecs)])]

/-- The text of a configuration, if every number in it can be written. -/
def print? (c : Config) : Option String := Toml.print? c.tables

end Config

/-! ## Derived settings -/

/-- The form of log lines. -/
inductive LogFormat
  | text
  | json
  deriving DecidableEq, Repr

/-- The form that a configuration names; any other name stands for text. -/
def LogFormat.named (name : String) : LogFormat := if sameText name "json" then .json else .text

/-- A limit in seconds, unless it is zero. -/
def timeLimit (secs : Nat) : Option Nat := if secs = 0 then none else some secs

end Interpose
