import Interpose.Shell.Field
import Interpose.Shell.Utility

/-!
# Commands of the shell itself

The commands that change the shell: its variables and parameters, its working directory, and where
the script goes on. Those that run other commands are in `Run`.
-/

namespace Interpose.Shell.Builtin

open Utility (text)

/-- Leave the script with a complaint. -/
def refuse {α : Type} (about : String) : Act α := do
  complainHere about
  throw (.exit 2)

/-- A status or count given as first argument. -/
def numberOr (command : String) (default : Nat) : List Bytes → Act Nat
  | [] => return default
  | a :: _ =>
    match (text a).toNat? with
    | some n => return n
    | none => refuse (command ++ ": Illegal number: " ++ text a)

/-- Leave the script. -/
def exit : Utility := fun args => do
  throw (.exit ((← numberOr "exit" (← get).status args) % 256))

/-- Leave a function or a script that was read in. -/
def return_ : Utility := fun args => do
  throw (.returned ((← numberOr "return" (← get).status args) % 256))

/-- Leave loops. -/
def break_ : Utility := fun args => do throw (.broken (← numberOr "break" 1 args))

/-- Go on with the next turn of a loop. -/
def continue_ : Utility := fun args => do throw (.continued (← numberOr "continue" 1 args))

/-- Drop parameters. -/
def shift : Utility := fun args => do
  let n ← numberOr "shift" 1 args
  let m ← get
  if m.arguments.length < n then refuse "shift: can't shift that many"
  else
    set { m with arguments := m.arguments.drop n }
    return 0

/-- Set options and parameters. -/
def set : Utility
  | [] => do
    for (name, value) in (← get).bindings.mergeSort fun a b => a.1 ≤ b.1 do
      sayLine (Bytes.ofText (name ++ "='") ++ value ++ [0x27])
    return 0
  | args@(a :: rest) => do
    match text a with
    | "--" => modify fun m => { m with arguments := rest }
    | option =>
      match option.toList with
      | '-' :: letters =>
        if letters.contains 'e' then modify fun m => { m with strict := true }
      | '+' :: letters =>
        if letters.contains 'e' then modify fun m => { m with strict := false }
      | _ => modify fun m => { m with arguments := args }
    return 0

/-- The name and the value of an argument such as `a=b`. -/
def assigned (a : Bytes) : String × Option Bytes :=
  match a.span (· != 0x3D) with
  | (name, _ :: value) => (text name, some value)
  | (name, []) => (text name, none)

/-- Assign variables, and export them or not. -/
def declare (exporting : Bool) : Utility := fun args => do
  for a in (Utility.options [] args).2 do
    let (name, value) := assigned a
    match value with
    | some v => assign name v
    | none => pure ()
    if exporting then modify (·.export name)
  return 0

/-- Forget variables or functions. -/
def unset : Utility := fun args => do
  let (found, names) := Utility.options [] args
  for a in names do
    let name := text a
    if Utility.given found 'f' then
      modify fun m => { m with functions := m.functions.filter (·.1 != name) }
    else modify (·.forget name)
  return 0

/-- Change the working directory. -/
def cd : Utility := fun args => do
  let m ← get
  let path := match args with
    | a :: _ => text a
    | [] => (m.get? "HOME").elim "" text
  match m.tree.look path, m.tree.walk path with
  | .ok .directory, .ok place =>
    modify fun m => { m with tree := { m.tree with workingDirectory := place } }
    assign "PWD" (Bytes.ofText ("/" ++ "/".intercalate place))
    return 0
  | _, _ =>
    complainHere ("cd: can't cd to " ++ path)
    return 2

/-- A line of input with its backslashes taken as escapes, or not, and whether it was ended;
`done` is what came before, last byte first. -/
def inputLine (raw : Bool) (done : Field) : Bytes → Field × Bool × Bytes
  | [] => (done.reverse, false, [])
  | 10 :: rest => (done.reverse, true, rest)
  | 92 :: b :: rest =>
    if raw then inputLine raw ((false, 92) :: done) (b :: rest)
    else if b == 10 then inputLine raw done rest
    else inputLine raw ((true, b) :: done) rest
  | b :: rest => inputLine raw ((false, b) :: done) rest

/-- Assign the fields of a line to variables; the last takes all that is left. -/
def assignFields (separators : Bytes) : List String → Field → Act Unit
  | [], _ => return ()
  | [name], line => do
    let isBlank (b : Bool × UInt8) : Bool :=
      !b.1 && separators.contains b.2 && (b.2 == 32 || b.2 == 9)
    assign name (plain ((line.dropWhile isBlank).reverse.dropWhile isBlank).reverse)
  | name :: names, line => do
    let isSeparator (b : Bool × UInt8) : Bool := !b.1 && separators.contains b.2
    let isBlank (b : Bool × UInt8) : Bool := isSeparator b && (b.2 == 32 || b.2 == 9)
    let line := line.dropWhile isBlank
    let field := line.takeWhile fun b => !isSeparator b
    let rest := (line.drop field.length).dropWhile isBlank
    let rest := match rest with
      | b :: more => if isSeparator b then more else rest
      | [] => []
    assign name (plain field)
    assignFields separators names rest

/-- Read a line of input into variables. -/
def read : Utility := fun args => do
  let (found, names) := Utility.options ['p'] args
  let m ← get
  let (line, ended, rest) := inputLine (Utility.given found 'r') [] m.input
  modify fun m => { m with input := rest }
  assignFields m.separators (names.map text) line
  return if ended then 0 else 1

/-- Say what to run at the end. -/
def trap : Utility
  | [command, condition] => do
    if text condition == "EXIT" || text condition == "0" then
      modify fun m =>
        { m with atExit := if text command == "-" then none else some (text command) }
    return 0
  | _ => return 0

end Interpose.Shell.Builtin

namespace Interpose.Shell

/-- The command of a name that the shell itself carries out. -/
def builtin? (name : String) : Option Utility :=
  match name with
  | ":" => some fun _ => return 0
  | "exit" => some Builtin.exit
  | "return" => some Builtin.return_
  | "break" => some Builtin.break_
  | "continue" => some Builtin.continue_
  | "shift" => some Builtin.shift
  | "set" => some Builtin.set
  | "export" => some (Builtin.declare true)
  | "readonly" => some (Builtin.declare false)
  | "local" => some (Builtin.declare false)
  | "unset" => some Builtin.unset
  | "cd" => some Builtin.cd
  | "read" => some Builtin.read
  | "trap" => some Builtin.trap
  | "umask" => some fun _ => return 0
  | "wait" => some fun _ => return 0
  | _ => none

end Interpose.Shell
