import Interpose.CommandLine.Options
import Interpose.Config.Key

/-!
# Reading a command line

A command line descends through *levels*: the program, a command, an action. Each level has its own
options next to those that all levels share, and either a choice of levels below or positional
arguments. After `--` everything is positional.

Refusals come in the order of reading. The value of an option is examined when the next option or
positional argument of its level is met, or when the level ends, which is after the levels below;
so a request for help on a deeper level is met before a bad value above it is.

An option of all levels may be given on several; the deepest counts.
-/

namespace Interpose.CommandLine

/-! ## Options -/

/-- An option. -/
inductive Flag
  | verbose
  | config
  | cache
  | mode
  | cacheDirectory
  | logFormat
  | jobs
  | out
  | contentType
  | url
  | format
  | force
  | help
  | version
  deriving DecidableEq, Repr

namespace Flag

/-- The long name of an option. -/
def long : Flag → String
  | verbose => "verbose"
  | config => "config"
  | cache => "cache"
  | mode => "mode"
  | cacheDirectory => "cache-dir"
  | logFormat => "log-format"
  | jobs => "jobs"
  | out => "out"
  | contentType => "content-type"
  | url => "url"
  | format => "format"
  | force => "force"
  | help => "help"
  | version => "version"

/-- The letter of an option. -/
def letter? : Flag → Option Char
  | verbose => some 'v'
  | config => some 'c'
  | cache => none
  | mode => some 'm'
  | cacheDirectory => none
  | logFormat => none
  | jobs => some 'j'
  | out => some 'o'
  | contentType => some 't'
  | url => some 'u'
  | format => some 'f'
  | force => some 'f'
  | help => some 'h'
  | version => some 'V'

/-- Whether an option takes a value. -/
def takesValue : Flag → Bool
  | verbose | cache | force | help | version => false
  | config | mode | cacheDirectory | logFormat | jobs | out | contentType | url | format => true

end Flag

/-- A number of jobs, from 1 to 65535; a plus sign may stand before it. -/
def jobs? (value : String) : Option Nat :=
  let digits := match value.toList with
    | '+' :: rest => rest
    | s => s
  (Config.decimal? digits).filter fun n => 1 ≤ n && n < 0x10000

/-- The log format of a name. -/
def logFormat? (name : String) : Option LogFormat :=
  if name = "text" then some .text else if name = "json" then some .json else none

/-- Whether an option accepts a value. A path must not be empty. -/
def Flag.accepts (value : String) : Flag → Bool
  | config | cacheDirectory | out => value != ""
  | logFormat => (logFormat? value).isSome
  | jobs => (jobs? value).isSome
  | format => (AnswerFormat.named? value).isSome
  | _ => true

/-! ## Levels -/

/-- A level of the command line. -/
structure CommandLevel where
  /-- The options besides those of all levels. -/
  options : List Flag := []
  /-- The names of the levels below. -/
  below : List String := []
  /-- Whether a level below must be named. -/
  mustDescend : Bool := false
  /-- The fewest positional arguments. -/
  fewest : Nat := 0
  /-- The most positional arguments, if there is a bound. -/
  most : Option Nat := some 0
  /-- Whether positional arguments are paths. -/
  paths : Bool := false

/-- The options of all levels. -/
def shared : List Flag :=
  [.verbose, .config, .cache, .mode, .cacheDirectory, .logFormat, .help, .version]

/-- The level at the end of a path of names. -/
def level? : List String → Option CommandLevel
  | [] => some { below := ["rewrite", "classify", "cache", "config"], mustDescend := true }
  | ["rewrite"] => some { options := [.jobs, .out], fewest := 1, most := none, paths := true }
  | ["classify"] =>
    some { options := [.contentType, .url, .format], fewest := 1, most := some 1, paths := true }
  | ["cache"] => some { below := ["list", "path"], mustDescend := true }
  | ["cache", "list"] => some { options := [.format] }
  | ["cache", "path"] => some {}
  | ["config"] => some { below := ["show", "path", "init", "set"] }
  | ["config", "show"] => some {}
  | ["config", "path"] => some {}
  | ["config", "init"] => some { options := [.force] }
  | ["config", "set"] => some { fewest := 2, most := some 2 }
  | _ => none

/-- The option of a level with a long name. -/
def CommandLevel.long? (l : CommandLevel) (name : String) : Option Flag :=
  (shared ++ l.options).find? (·.long == name)

/-- The option of a level with a letter. -/
def CommandLevel.letter? (l : CommandLevel) (c : Char) : Option Flag :=
  (shared ++ l.options).find? (·.letter? == some c)

/-! ## Reading a level -/

/-- What a level has been given. -/
structure Given where
  /-- Options with their values; one without a value has the empty text. -/
  options : List (Flag × String) := []
  positional : List String := []
  /-- An option whose value has not been examined. -/
  unexamined : Option (Flag × String) := none
  /-- An option whose value comes next. -/
  waiting : Option Flag := none

/-- Examine the last option: one with a value is given once. -/
def Given.settle (g : Given) : Except Refusal Given :=
  if g.waiting.isSome then .error .usage
  else
    match g.unexamined with
    | none => .ok g
    | some (flag, value) =>
      if flag.accepts value && !(g.options.any (·.1 == flag)) then
        .ok { g with options := g.options ++ [(flag, value)], unexamined := none }
      else .error .usage

/-- Take an option without a value. All but the verbosity are given once. -/
def Given.take (g : Given) (flag : Flag) : Except Refusal Given := do
  let g ← g.settle
  if flag == .help || flag == .version then throw .display
  if flag != .verbose && g.options.any (·.1 == flag) then throw .usage
  return { g with options := g.options ++ [(flag, "")] }

/-- Take an option with a value attached to it. -/
def Given.takeWith (g : Given) (flag : Flag) (value : String) : Except Refusal Given := do
  let g ← g.settle
  { g with unexamined := some (flag, value) }.settle

/-- Take an option whose value comes next. -/
def Given.await (g : Given) (flag : Flag) : Except Refusal Given := do
  return { ← g.settle with waiting := some flag }

/-- Take a positional argument. -/
def Given.place (g : Given) (l : CommandLevel) (value : String) : Except Refusal Given := do
  let g ← g.settle
  let full := match l.most with
    | none => false
    | some n => n ≤ g.positional.length
  if full || (l.paths && value == "") then throw .usage
  return { g with positional := g.positional ++ [value] }

/-- Read an option by its long name, with the value attached to it if there is one. -/
def Given.readLong (g : Given) (l : CommandLevel) (name : String) (value : Option String) :
    Except Refusal Given :=
  match l.long? name, value with
  | none, _ => .error .usage
  | some flag, none => if flag.takesValue then g.await flag else g.take flag
  | some flag, some value => if flag.takesValue then g.takeWith flag value else .error .usage

/-- Read the letters of a group of options. The letters after that of an option with a value are
its value. -/
def Given.readLetters (g : Given) (l : CommandLevel) : List Char → Except Refusal Given
  | [] => .ok g
  | c :: rest =>
    match l.letter? c with
    | none => .error .usage
    | some flag =>
      if flag.takesValue then
        match rest with
        | [] => g.await flag
        | '=' :: value => g.takeWith flag (String.ofList value)
        | value => g.takeWith flag (String.ofList value)
      else
        match g.take flag with
        | .ok g => g.readLetters l rest
        | .error r => .error r

/-- A long option's name and the value attached to it. -/
def splitLong (s : List Char) : String × Option String :=
  match s.span (· != '=') with
  | (name, []) => (String.ofList name, none)
  | (name, _ :: value) => (String.ofList name, some (String.ofList value))

/-- Read the arguments of a level up to the name of a level below, which is answered with the
arguments after it. -/
def readLevel (l : CommandLevel) (g : Given) :
    List String → Except Refusal (Given × Option (String × List String))
  | [] => .ok (g, none)
  | argument :: rest =>
    if g.waiting.isNone && !l.below.isEmpty &&
        (argument == "help" || l.below.contains argument) then
      .ok (g, some (argument, rest))
    else
      match argument.toList with
      | ['-', '-'] => (rest.foldlM (fun (g : Given) a => g.place l a) g).map (·, none)
      | '-' :: '-' :: name => do
        let (name, value) := splitLong name
        readLevel l (← g.readLong l name value) rest
      | '-' :: c :: letters => do readLevel l (← g.readLetters l (c :: letters)) rest
      | _ =>
        match g.waiting with
        | some flag =>
          readLevel l { g with waiting := none, unexamined := some (flag, argument) } rest
        | none => do readLevel l (← g.place l argument) rest

/-- Whether a level may end with what it was given. -/
def CommandLevel.closes (l : CommandLevel) (g : Given) : Bool :=
  !l.mustDescend && l.fewest ≤ g.positional.length

/-! ## Reading all levels -/

/-- What a request for help on a path of levels is answered with. -/
def helpOn (path : List String) : List String → Refusal
  | [] => .display
  | ["help"] => if (level? path).any (!·.below.isEmpty) then .display else .usage
  | name :: rest =>
    if (level? path).any (·.below.contains name) then helpOn (path ++ [name]) rest else .usage

/-- Whether a path from the environment can stand for an option. -/
def acceptable (fallback : Option String) : Bool := fallback != some ""

/-- Read the levels from a path on: the path at the end, and what each level was given, the first
level first. -/
def readLevels (fallback : Option String) :
    Nat → List String → List String → Except Refusal (List String × List Given)
  | 0, _, _ => .error .usage
  | depth + 1, path, arguments => do
    let some l := level? path | throw .usage
    match ← readLevel l {} arguments with
    | (g, none) =>
      let g ← g.settle
      if acceptable fallback && l.closes g then return (path, [g]) else throw .usage
    | (g, some (name, rest)) =>
      if name == "help" then throw (helpOn path rest)
      let (path, below) ← readLevels fallback depth (path ++ [name]) rest
      let g ← g.settle
      if acceptable fallback then return (path, g :: below) else throw .usage

/-! ## The request -/

/-- The value of an option on a level. -/
def Given.value? (g : Given) (flag : Flag) : Option String :=
  (g.options.find? (·.1 == flag)).map (·.2)

/-- The value of an option on the deepest level that gives it. -/
def deepest? (levels : List Given) (flag : Flag) : Option String :=
  levels.reverse.findSome? (·.value? flag)

/-- How often an option is given on the deepest level that gives it, up to 255 times. -/
def deepestCount (levels : List Given) (flag : Flag) : Nat :=
  let counts := levels.reverse.map fun g => (g.options.filter (·.1 == flag)).length
  min 255 ((counts.find? (0 < ·)).getD 0)

/-- The format that a level was given. -/
def Given.format (g : Given) : AnswerFormat :=
  ((g.value? .format).bind AnswerFormat.named?).getD .table

/-- The command at the end of a path, with what its level was given. -/
def command? (path : List String) (g : Given) : Option Command :=
  match path, g.positional with
  | ["rewrite"], flows =>
    some (.rewrite flows (((g.value? .jobs).bind jobs?).getD 4) (g.value? .out))
  | ["classify"], [file] =>
    some (.classify file (g.value? .contentType) ((g.value? .url).getD "file://classify") g.format)
  | ["cache", "list"], _ => some (.cacheList g.format)
  | ["cache", "path"], _ => some .cachePath
  | ["config"], _ => some (.config none)
  | ["config", "show"], _ => some (.config (some .print))
  | ["config", "path"], _ => some (.config (some .path))
  | ["config", "init"], _ => some (.config (some (.create (g.value? .force).isSome)))
  | ["config", "set"], [key, value] => some (.config (some (.assign key value)))
  | _, _ => none

/-- Read a command line. The fallback is the path of the configuration file where no option gives it. -/
def read (fallback : Option String) (arguments : List String) : Except Refusal Request := do
  let (path, levels) ← readLevels fallback 3 [] arguments
  let some command := (levels.getLast?).bind (command? path) | throw .usage
  return {
    command
    verbose := deepestCount levels .verbose
    config := deepest? levels .config <|> fallback
    cache := (deepest? levels .cache).isSome
    mode := deepest? levels .mode
    cacheDirectory := deepest? levels .cacheDirectory
    logFormat := (deepest? levels .logFormat).bind logFormat? }

end Interpose.CommandLine
