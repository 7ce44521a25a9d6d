import Interpose.Config.Schema
import Interpose.Json.Printer
import Interpose.Time.Rfc3339
import Interpose.Trace

/-!
# The log as text

Log lines go to the error output, as text or as JSON, those at least as grave as a threshold.
-/

namespace Interpose.CommandLine

/-- The rank of a level, the gravest last. -/
def rank : Level → Nat
  | .debug => 0
  | .info => 1
  | .warn => 2
  | .error => 3

/-- The least grave level that is shown, by how often verbosity was asked for. -/
def threshold : Nat → Level
  | 0 => .warn
  | 1 => .info
  | _ => .debug

/-- How log lines are shown. -/
structure LogStyle where
  least : Level := .warn
  format : LogFormat := .text
  deriving DecidableEq, Repr

/-- A text on the right of a field of at least `width` characters. -/
def padLeft (width : Nat) (s : String) : String :=
  String.ofList (List.replicate (width - s.length) ' ') ++ s

/-- A text on the left of a field of at least `width` characters. -/
def padRight (width : Nat) (s : String) : String :=
  s ++ String.ofList (List.replicate (width - s.length) ' ')

/-- A log line as text. -/
def eventText (e : Event) : String :=
  padLeft 5 e.level.word ++ " " ++ e.message ++
    (match e.source with
      | none => ""
      | some source => " source=" ++ source) ++ "\n"

/-- A log line as JSON. -/
def eventJson (now : Instant) (e : Event) : String :=
  let source := match e.source with
    | none => []
    | some source => [("source", Json.text source)]
  (Json.record
    [("timestamp", .text (now.text "Z")), ("level", .text e.level.word),
     ("fields", .record (("message", .text e.message) :: source))]).compact ++ "\n"

/-- The lines of a log that are shown. -/
def LogStyle.shown (style : LogStyle) (now : Instant) (log : List Event) : String :=
  String.join <| (log.filter fun e => rank style.least ≤ rank e.level).map fun e =>
    match style.format with
    | .text => eventText e
    | .json => eventJson now e

end Interpose.CommandLine
