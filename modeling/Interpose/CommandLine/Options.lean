import Interpose.Config.Schema

/-!
# What a command line asks for

The commands of the program with their arguments, and the options that any command takes.
-/

namespace Interpose.CommandLine

/-- The form in which a command answers. -/
inductive AnswerFormat
  | table
  | json
  | plain
  deriving DecidableEq, Repr

/-- The format of a name. -/
def AnswerFormat.named? (name : String) : Option AnswerFormat :=
  if name = "table" then some table
  else if name = "json" then some json
  else if name = "plain" then some plain
  else none

/-- What to do with the configuration. -/
inductive ConfigAction
  | print
  | path
  | create (force : Bool)
  | assign (key value : String)
  deriving DecidableEq, Repr

/-- Whether an action works on the configuration that is in force. The others must work when the
file cannot be read. -/
def ConfigAction.readsConfig : ConfigAction → Bool
  | print => true
  | path => false
  | create _ => false
  | assign _ _ => true

/-- A command. -/
inductive Command
  /-- Replay recorded flows, and print them or write them to a directory. -/
  | rewrite (flows : List String) (jobs : Nat) (out : Option String)
  /-- Tell how the body in a file would be classified. -/
  | classify (file : String) (contentType : Option String) (url : String) (format : AnswerFormat)
  /-- List the artifacts in the store. -/
  | cacheList (format : AnswerFormat)
  /-- Tell where the store is. -/
  | cachePath
  /-- Show or change the configuration. -/
  | config (action : Option ConfigAction)
  deriving DecidableEq, Repr

/-- A command line. -/
structure Request where
  command : Command
  verbose : Nat := 0
  config : Option String := none
  cache : Bool := false
  mode : Option String := none
  cacheDirectory : Option String := none
  logFormat : Option LogFormat := none
  deriving DecidableEq, Repr

/-- Why a command line is not carried out. -/
inductive Refusal
  /-- It is not well formed. -/
  | usage
  /-- It asks for help or the version. -/
  | display
  deriving DecidableEq, Repr

end Interpose.CommandLine
