import Interpose.Program
import Interpose.Shell.Builtin
import Interpose.Shell.Reader
import Interpose.Shell.Sum

/-!
# Running scripts

Words expand to fields, commands run, and programs are run by name. The functions that call each
other take fuel; when it is gone the run counts as one that never ends, as with a clock that ran
out. `programs` is what there is to run: a shell, and the utilities of scripts.
-/

namespace Interpose.Shell

/-! ## Around a run -/

/-- Set the status. -/
def setStatus (n : Nat) : Act Unit := modify fun m => { m with status := n }

/-- Run an action, whatever becomes of it, and then change the machine. -/
def finally_ {α : Type} (act : Act α) (change : Machine → Machine) : Act α := do
  let result ← ExceptT.lift (ExceptT.run act)
  modify change
  match result with
  | .ok a => return a
  | .error leave => throw leave

/-- Run an action whose failure does not end the script. -/
def lenient (act : Act Unit) : Act Unit := do
  let strict := (← get).strict
  modify fun m => { m with strict := false }
  finally_ act fun m => { m with strict := strict }

/-- End the script if its last command failed and that matters. -/
def checkStrict : Act Unit := do
  let m ← get
  if m.strict && m.status != 0 then throw (.exit m.status)

/-- What a turn of a loop means for the loop. -/
inductive Turn
  | next
  | stop

/-- Run a turn of a loop. -/
def turn (act : Act Unit) : Act Turn :=
  tryCatch (do act; return .next) fun leave =>
    match leave with
    | .broken n => if n ≤ 1 then return .stop else throw (.broken (n - 1))
    | .continued n => if n ≤ 1 then return .next else throw (.continued (n - 1))
    | leave => throw leave

/-- Run an action with some variables set, which programs see. -/
def withVariables {α : Type} (values : List (String × Bytes)) (act : Act α) : Act α := do
  let before ← get
  modify fun m => values.foldl (fun m (name, value) => (m.assign name value).export name) m
  finally_ act fun m =>
    values.foldl (fun m (name, _) =>
      let m := match before.get? name with
        | some old => m.assign name old
        | none => m.forget name
      if before.exported.contains name then m
      else { m with exported := m.exported.filter (· != name) }) m

/-! ## Redirections -/

/-- Lead a descriptor to a place. Yields whether that could be done. -/
def redirect (descriptor : Nat) (direction : Direction) (target : Bytes) : Act Bool := do
  let path := Utility.text target
  match direction with
  | .same =>
    match path.toNat? with
    | some n =>
      if descriptor != 0 then modify fun m => m.lead descriptor (m.sink n)
      return true
    | none =>
      if path == "-" then
        if descriptor == 0 then modify fun m => { m with input := [] }
        else modify (·.lead descriptor .nowhere)
        return true
      else
        complainHere "Syntax error: Bad fd number"
        return false
  | .input =>
    match ← contentOf (if path == "-" then Bytes.ofText "./-" else target) with
    | .ok content =>
      if descriptor == 0 then modify fun m => { m with input := content }
      return true
    | .error o =>
      complainHere ("cannot open " ++ path ++ ": " ++ (if o == .missing then "No such file" else o.phrase))
      return false
  | .output | .append =>
    match ← openSink path (direction == .append) with
    | .ok sink =>
      modify (·.lead descriptor sink)
      return true
    | .error o =>
      let why := if o == .missing then "Directory nonexistent" else o.phrase
      complainHere ("cannot create " ++ path ++ ": " ++ why)
      return false

/-- Carry out redirections one after the other, until one fails. -/
def redirectAll : List (Nat × Direction × Bytes) → Act Bool
  | [] => return true
  | (descriptor, direction, target) :: rest => do
    if ← redirect descriptor direction target then redirectAll rest else return false

/-- Run an action under redirections. -/
def redirecting (rs : List (Nat × Direction × Bytes)) (act : Act Unit) : Act Unit := do
  let before ← get
  let borrowed := rs.any fun (descriptor, direction, _) => descriptor == 0 && direction == .input
  finally_ (do if ← redirectAll rs then act else setStatus 2) fun m =>
    { m with sinks := before.sinks, input := if borrowed then before.input else m.input }

/-! ## Parameters -/

/-- The parameters as one text. -/
def Machine.joined (m : Machine) : Bytes :=
  match m.separators with
  | [] => m.arguments.flatten
  | b :: _ => [b].intercalate m.arguments

/-- The value of a parameter. -/
def Machine.parameter? (m : Machine) (name : String) : Option Bytes :=
  match name with
  | "@" | "*" => if m.arguments.isEmpty then none else some m.joined
  | "#" => some (Bytes.ofText (toString m.arguments.length))
  | "?" => some (Bytes.ofText (toString m.status))
  | "$" => some (Bytes.ofText (toString m.process))
  | "-" => some (Bytes.ofText (if m.strict then "e" else ""))
  | "!" => none
  | "0" => some m.name
  | name =>
    match name.toNat? with
    | some n => m.arguments[n - 1]?
    | none => m.get? name

/-- Whether a parameter counts as having no value. -/
def isMissing (orEmpty : Bool) (value : Option Bytes) : Bool :=
  match value with
  | none => true
  | some s => orEmpty && s.isEmpty

/-- A value without its shortest or longest front part that a pattern matches. -/
def dropFront (longest : Bool) (p : Pattern) (s : Bytes) : Bytes :=
  let lengths := p.fronts 0 s
  match if longest then lengths.getLast? else lengths.head? with
  | some n => s.drop n
  | none => s

/-- A value without its shortest or longest back part that a pattern matches. -/
def dropBack (longest : Bool) (p : Pattern) (s : Bytes) : Bytes :=
  let cuts := (List.range (s.length + 1)).filter fun n => p.accepts (s.drop n)
  match if longest then cuts.head? else cuts.getLast? with
  | some n => s.take n
  | none => s

/-- Whether a word runs commands. -/
def runsCommands (word : Word) : Bool :=
  word.any fun part =>
    match part with
    | .output _ _ => true
    | _ => false

/-- The output of a command as a value: without line breaks at the end, and without zero bytes. -/
def outputValue (s : Bytes) : Bytes :=
  ((s.reverse.dropWhile (· == 10)).filter (· != 0)).reverse

/-- The value of a sum, assigned if it says so. -/
def evaluateSum (expression : Bytes) : Act Bytes := do
  let m ← get
  let lookUp (name : String) : Int := ((m.get? name).map fun v => Sum.ofText (Utility.text v)).getD 0
  match Sum.read? lookUp (Utility.text expression).toList with
  | some (n, name) =>
    let value := Bytes.ofText (toString n)
    match name with
    | some name => assign name value
    | none => pure ()
    return value
  | none => Builtin.refuse "arithmetic expression: expecting primary"

/-! ## Calls of a shell -/

/-- What a shell was told to do. -/
structure Call where
  /-- The script, if one was given with `-c`. -/
  script : Option Bytes := none
  strict : Bool := false
  operands : List Bytes := []

/-- The call of a shell that has these arguments after its options. -/
def Call.ofOperands? (fromArgument strict : Bool) (operands : List Bytes) : Option Call :=
  if fromArgument then
    match operands with
    | [] => none
    | script :: operands => some { script := some script, strict, operands }
  else some { strict, operands }

/-- Read the arguments of a shell. `none` stands for a missing script. -/
def Call.read? (fromArgument strict : Bool) : List Bytes → Option Call
  | [] => Call.ofOperands? fromArgument strict []
  | a :: rest =>
    match Utility.text a, rest with
    | "-o", _ :: rest | "+o", _ :: rest => Call.read? fromArgument strict rest
    | "--", rest | "-", rest => Call.ofOperands? fromArgument strict rest
    | option, rest =>
      match option.toList with
      | '-' :: letters =>
        Call.read? (fromArgument || letters.contains 'c') (strict || letters.contains 'e') rest
      | '+' :: _ => Call.read? fromArgument strict rest
      | _ => Call.ofOperands? fromArgument strict (a :: rest)

/-- The machine of a program that starts: it sees exported variables only. -/
def Machine.fresh (m : Machine) : Machine :=
  { m with
    bindings := m.environment, functions := [], strict := false, atExit := none, status := 0 }

/-- Run an action as a process of its own; yields its status. -/
def asProcess (act : Act Unit) : Act Nat :=
  apart do
    modify fun m => { m.fresh with process := m.process + 1 }
    let own := (← get).process
    tryCatch (endStatus act) fun leave =>
      match leave with
      | .killed n signal => if n == own then return 128 + signal else throw leave
      | leave => throw leave

/-- The name of a program without the directories where programs are. -/
def programName (name : String) : String :=
  let places := ["/bin/", "/usr/bin/"]
  match places.findSome? fun p => stripFront? p.toList name.toList with
  | some rest => String.ofList rest
  | none => name

/-- Whether a name is that of a shell. -/
def isShell (name : String) : Bool := ["sh", "dash", "bash"].contains name

/-- Whether there is a program of a name. -/
def isProgram (name : String) : Bool :=
  let bare := programName name
  isShell bare || bare == "env" || (utility? bare).isSome

/-- The assignments at the front of the arguments of `env`. -/
def leadingAssignments : List Bytes → List (String × Bytes) × List Bytes
  | [] => ([], [])
  | a :: rest =>
    match Builtin.assigned a with
    | (name, some value) =>
      let (more, rest) := leadingAssignments rest
      ((name, value) :: more, rest)
    | (_, none) => ([], a :: rest)

/-! ## Expansion and commands -/

mutual

/-- Expand a part of a word. -/
def expandPart : Nat → Part → Act (List Piece)
  | 0, _ => throw .late
  | fuel + 1, part => do
    match part with
    | .text quoted s => return [.text quoted (Bytes.ofText s)]
    | .output quoted c =>
      let ((), s) ← collect (apartStatus (run fuel c))
      return [Piece.ofValue quoted (outputValue s)]
    | .sum quoted expression =>
      let s ← evaluateSum (Piece.flat (← expand fuel expression))
      return [Piece.ofValue quoted s]
    | .parameter quoted name use word =>
      let m ← get
      let value := m.parameter? name
      let whole : List Piece :=
        if name == "@" then Piece.ofParameters quoted m.arguments
        else if name == "*" && !quoted then Piece.ofParameters false m.arguments
        else [Piece.ofValue quoted (value.getD [])]
      match use with
      | .value => return whole
      | .length =>
        return [Piece.ofValue quoted (Bytes.ofText (toString (value.getD []).length))]
      | .orElse orEmpty =>
        if isMissing orEmpty value then return Piece.loosen quoted (← expand fuel word)
        else return whole
      | .orAssign orEmpty =>
        if isMissing orEmpty value then
          let s := Piece.flat (← expand fuel word)
          assign name s
          return [Piece.ofValue quoted s]
        else return whole
      | .instead orEmpty =>
        if isMissing orEmpty value then return [Piece.ofValue quoted []]
        else return Piece.loosen quoted (← expand fuel word)
      | .orFail orEmpty =>
        if isMissing orEmpty value then
          let s := Piece.flat (← expand fuel word)
          Builtin.refuse (name ++ ": " ++ if s.isEmpty then "parameter not set" else Utility.text s)
        else return whole
      | .dropFront longest =>
        let field := Piece.marked (← expand fuel word)
        let p := Pattern.glob (field.length + 1) field
        return [Piece.ofValue quoted (dropFront longest p (value.getD []))]
      | .dropBack longest =>
        let field := Piece.marked (← expand fuel word)
        let p := Pattern.glob (field.length + 1) field
        return [Piece.ofValue quoted (dropBack longest p (value.getD []))]

/-- Expand a word to pieces. -/
def expand : Nat → Word → Act (List Piece)
  | 0, _ => throw .late
  | _ + 1, [] => return []
  | fuel + 1, part :: rest => do
    let pieces ← expandPart fuel part
    return pieces ++ (← expand fuel rest)

/-- Expand words to fields. -/
def fieldsOf : Nat → List Word → Act (List Bytes)
  | 0, _ => throw .late
  | _ + 1, [] => return []
  | fuel + 1, word :: rest => do
    let pieces ← expand fuel word
    let m ← get
    let fields := (Fields.ofPieces m.separators pieces).flatMap (expandPaths m.tree)
    return fields ++ (← fieldsOf fuel rest)

/-- Expand assignments. -/
def valuesOf : Nat → List (String × Word) → Act (List (String × Bytes))
  | 0, _ => throw .late
  | _ + 1, [] => return []
  | fuel + 1, (name, word) :: rest => do
    let value := Piece.flat (← expand fuel word)
    return (name, value) :: (← valuesOf fuel rest)

/-- Carry out assignments one after the other. -/
def assignAll : Nat → List (String × Word) → Act Unit
  | 0, _ => throw .late
  | _ + 1, [] => return ()
  | fuel + 1, (name, word) :: rest => do
    assign name (Piece.flat (← expand fuel word))
    assignAll fuel rest

/-- Expand the targets of redirections. -/
def targetsOf : Nat → List Redirection → Act (List (Nat × Direction × Bytes))
  | 0, _ => throw .late
  | _ + 1, [] => return []
  | fuel + 1, (descriptor, direction, word) :: rest => do
    let target := Piece.flat (← expand fuel word)
    return (descriptor, direction, target) :: (← targetsOf fuel rest)

/-- Run a command. Its status is left in the machine. -/
def run : Nat → Command → Act Unit
  | 0, _ => throw .late
  | fuel + 1, c => do
    match c with
    | .nothing => return ()
    | .sequence a b =>
      run fuel a
      run fuel b
    | .both a b =>
      lenient (run fuel a)
      if (← get).status == 0 then run fuel b
    | .either a b =>
      lenient (run fuel a)
      if (← get).status != 0 then run fuel b
    | .negated c =>
      lenient (run fuel c)
      setStatus (if (← get).status == 0 then 1 else 0)
    | .apart c =>
      apartStatus (run fuel c)
      checkStrict
    | .pipe stages =>
      runStages fuel stages
      checkStrict
    | .branch condition yes no =>
      lenient (run fuel condition)
      if (← get).status == 0 then run fuel yes
      else
        match no with
        | .nothing => setStatus 0
        | no => run fuel no
    | .loop untilTrue condition body => runLoop fuel untilTrue condition body 0
    | .each name words body =>
      let values ← match words with
        | some words => fieldsOf fuel words
        | none => do pure (← get).arguments
      setStatus 0
      runEach fuel name body values
    | .select word arms =>
      let s := Piece.flat (← expand fuel word)
      setStatus 0
      runArms fuel s arms
    | .define name body =>
      modify fun m => { m with functions := (name, body) :: m.functions.filter (·.1 != name) }
      setStatus 0
    | .redirected (.simple [] [[.text false "exec"]]) rs =>
      let targets ← targetsOf fuel rs
      if ← redirectAll targets then setStatus 0 else throw (.exit 2)
    | .redirected c rs =>
      let targets ← targetsOf fuel rs
      redirecting targets (run fuel c)
    | .simple assignments words =>
      let fields ← fieldsOf fuel words
      match fields with
      | [] =>
        assignAll fuel assignments
        if !(assignments.any fun a => runsCommands a.2) && !words.any runsCommands then setStatus 0
      | name :: args =>
        let values ← valuesOf fuel assignments
        call fuel values (Utility.text name) args
      checkStrict

/-- Run the stages of a pipeline, each on the output of the one before. -/
def runStages : Nat → List Command → Act Unit
  | 0, _ => throw .late
  | _ + 1, [] => return ()
  | fuel + 1, [c] => apartStatus (run fuel c)
  | fuel + 1, c :: rest => do
    let ((), s) ← collect (apartStatus (run fuel c))
    let left := (← get).input
    modify fun m => { m with input := s }
    runStages fuel rest
    modify fun m => { m with input := left }

/-- Run a loop; the status is that of the last turn. -/
def runLoop : Nat → Bool → Command → Command → Nat → Act Unit
  | 0, _, _, _, _ => throw .late
  | fuel + 1, untilTrue, condition, body, status => do
    lenient (run fuel condition)
    if ((← get).status == 0) == untilTrue then setStatus status
    else
      match ← turn (run fuel body) with
      | .stop => setStatus 0
      | .next => runLoop fuel untilTrue condition body (← get).status

/-- Run a loop over values. -/
def runEach : Nat → String → Command → List Bytes → Act Unit
  | 0, _, _, _ => throw .late
  | _ + 1, _, _, [] => return ()
  | fuel + 1, name, body, value :: rest => do
    assign name value
    match ← turn (run fuel body) with
    | .stop => setStatus 0
    | .next => runEach fuel name body rest

/-- Run the first arm with a pattern that matches. -/
def runArms : Nat → Bytes → List (List Word × Command) → Act Unit
  | 0, _, _ => throw .late
  | _ + 1, _, [] => return ()
  | fuel + 1, s, (patterns, body) :: rest => do
    if ← matchesAny fuel s patterns then run fuel body else runArms fuel s rest

/-- Whether a text matches one of some patterns. -/
def matchesAny : Nat → Bytes → List Word → Act Bool
  | 0, _, _ => throw .late
  | _ + 1, _, [] => return false
  | fuel + 1, s, word :: rest => do
    let field := Piece.marked (← expand fuel word)
    if (Pattern.glob (field.length + 1) field).accepts s then return true
    else matchesAny fuel s rest

/-- Call a function or run a program, with some variables set for it. -/
def call : Nat → List (String × Bytes) → String → List Bytes → Act Unit
  | 0, _, _, _ => throw .late
  | fuel + 1, values, name, args => do
    let m ← get
    match m.functions.find? (·.1 == name) with
    | some (_, body) =>
      modify fun m => { m with arguments := args }
      let act : Act Unit := tryCatch (run fuel body) fun leave =>
        match leave with
        | .returned n => setStatus n
        | leave => throw leave
      withVariables values (finally_ act fun after => { after with arguments := m.arguments })
    | none => setStatus (← withVariables values (invoke fuel name args))

/-- Run a program by its name; yields its status. -/
def invoke : Nat → String → List Bytes → Act Nat
  | 0, _, _ => throw .late
  | fuel + 1, name, args => do
    match builtin? name with
    | some builtin => builtin args
    | none =>
      match programName name with
      | "eval" =>
        runText fuel ([(32 : UInt8)].intercalate args)
        return (← get).status
      | "." =>
        match args with
        | [] => return 0
        | file :: _ =>
          match ← contentOf file with
          | .error _ => Builtin.refuse (".: " ++ Utility.text file ++ ": not found")
          | .ok s =>
            tryCatch (do runText fuel s; return (← get).status) fun leave =>
              match leave with
              | .returned n => return n
              | leave => throw leave
      | "exec" =>
        match args with
        | [] => return 0
        | name :: args =>
          let name := Utility.text name
          if isProgram name then execute fuel name args
          else
            complainHere ("exec: " ++ name ++ ": not found")
            setStatus 127
          throw (.exit (← get).status)
      | "command" | "which" =>
        match args with
        | [] => return 0
        | a :: rest =>
          let asked := if Utility.text a == "-v" then rest.map Utility.text
            else if name == "which" then args.map Utility.text else []
          match asked with
          | [] => invoke fuel (Utility.text a) rest
          | asked :: _ =>
            if (builtin? asked).isSome || (utility? asked).isSome || isShell asked then
              sayLine (Bytes.ofText asked)
              return 0
            else return 127
      | "env" => asProcess (execute fuel name args)
      | program =>
        if isShell program then asProcess (execute fuel name args)
        else
          execute fuel name args
          return (← get).status

/-- Run a program in place of what runs now. -/
def execute : Nat → String → List Bytes → Act Unit
  | 0, _, _ => throw .late
  | fuel + 1, name, args => do
    match programName name with
    | "env" =>
      let (values, rest) := leadingAssignments args
      modify fun m => values.foldl (fun m (name, value) => (m.assign name value).export name) m
      match rest with
      | [] => setStatus (← Utility.printenv [])
      | name :: args => execute fuel (Utility.text name) args
    | program =>
      if isShell program then runShell fuel program args
      else
        match utility? program with
        | some utility => setStatus (← utility args)
        | none =>
          if name.contains '/' && (← get).tree.isThere name then
            complainHere (name ++ ": Permission denied")
            setStatus 126
          else
            complainHere (name ++ ": not found")
            setStatus 127

/-- Run a script. -/
def runText : Nat → Bytes → Act Unit
  | 0, _ => throw .late
  | fuel + 1, s => do
    match script? (Utility.text s) with
    | some c => run fuel c
    | none => Builtin.refuse "Syntax error"

/-- Run a shell in place of what runs now. -/
def runShell : Nat → String → List Bytes → Act Unit
  | 0, _, _ => throw .late
  | fuel + 1, shell, args => do
    modify Machine.fresh
    match Call.read? false false args with
    | none =>
      complain (shell ++ ": 0: -c requires an argument")
      setStatus 2
    | some found =>
      let own := Bytes.ofText shell
      let script : Except String (Bytes × Bytes × List Bytes) ←
        match found.script, found.operands with
        | some s, name :: args => pure (.ok (s, name, args))
        | some s, [] => pure (.ok (s, own, []))
        | none, file :: args => do
          match ← contentOf file with
          | .ok s => pure (.ok (s, file, args))
          | .error _ => pure (.error (Utility.text file))
        | none, [] => do pure (.ok (← readAll, own, []))
      match script with
      | .error file =>
        complain (shell ++ ": 0: cannot open " ++ file ++ ": No such file")
        setStatus 2
      | .ok (s, name, args) =>
        modify fun m => { m with name := name, arguments := args, strict := found.strict }
        let status ← endStatus (runText fuel s)
        setStatus status
        match (← get).atExit with
        | some command =>
          modify fun m => { m with atExit := none }
          runText fuel (Bytes.ofText command)
          setStatus status
        | none => return ()

end

/-! ## Programs -/

/-- How deep a run may go. -/
def depth : Nat := 20000

/-- A variable from an entry of an environment. -/
def variableOf (name value : String) : String × Bytes :=
  match (name ++ "=" ++ value).toList.span (· != '=') with
  | (name, rest) => (String.ofList name, Bytes.ofText (String.ofList (rest.drop 1)))

/-- The machine on which a program starts. -/
def Machine.start (environment : List (String × String)) (i : Invocation) (tree : FileTree) :
    Machine :=
  let bindings := (environment ++ i.env).map fun (name, value) => variableOf name value
  let m : Machine := { tree, input := i.input, limit := i.limit }
  let m := bindings.foldl (fun m (name, value) => (m.assign name value).export name) m
  match m.get? "PWD" with
  | some _ => m
  | none => m.assign "PWD" (Bytes.ofText ("/" ++ "/".intercalate tree.workingDirectory))

/-- Run a program on a machine. -/
def start (name : String) (args : List String) : Act Unit :=
  let args := args.map Bytes.ofText
  if programName name == "echo" then do setStatus (← Utility.echoPlain args)
  else execute depth name args

/-- The programs that there are, in an environment. -/
def programs (environment : List (String × String)) : Programs := fun i tree =>
  let texts := i.argv ++ i.env.flatMap fun (name, value) => [name, value]
  match i.argv with
  | [] => (tree, .refused)
  | name :: args =>
    if !isProgram name || texts.any (·.contains '\x00') then (tree, .refused)
    else
      let (result, m) := (endStatus (start name args)).run.run (Machine.start environment i tree)
      let captured (ending : Ending) : Attempt :=
        .finished ⟨ending, m.buffers[0]?.getD [] |>.reverse, m.buffers[1]?.getD [] |>.reverse⟩
      let left := { m.tree with workingDirectory := tree.workingDirectory }
      match result with
      | .ok status => (left, captured (.exited status))
      | .error (.killed _ _) => (left, captured .killed)
      | .error _ => (left, .late)

end Interpose.Shell
