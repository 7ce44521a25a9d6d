import Interpose.Digest.Sha256
import Interpose.Shell.Condition
import Interpose.Text.Base64

/-!
# Utilities

The programs that scripts call, each an action that takes arguments and yields a status. What they
make of a text is in `Filter`; here stand their options, the files they read and change, and what
they complain about.
-/

namespace Interpose.Shell

/-- A utility. -/
abbrev Utility := List Bytes → Act Nat

namespace Utility

/-- The text of an argument. -/
def text (a : Bytes) : String := Utf8.decodeLossy a

/-! ## Options -/

/-- The options of a cluster of letters; a letter that takes a value takes what follows it, and is
left over if nothing does. -/
def cluster (valued : List Char) : Bytes → List (Char × Bytes) × Option Char
  | [] => ([], none)
  | b :: rest =>
    let c := Char.ofNat b.toNat
    if valued.contains c then
      if rest.isEmpty then ([], some c) else ([(c, rest)], none)
    else
      let (more, waiting) := cluster valued rest
      ((c, []) :: more, waiting)

/-- The options among some arguments, and the other arguments. -/
def options (valued : List Char) : List Bytes → List (Char × Bytes) × List Bytes
  | [] => ([], [])
  | [0x2D, 0x2D] :: rest => ([], rest)
  | (0x2D :: b :: letters) :: rest =>
    match cluster valued (b :: letters), rest with
    | (found, some c), value :: rest =>
      let (more, others) := options valued rest
      (found ++ (c, value) :: more, others)
    | (found, _), rest =>
      let (more, others) := options valued rest
      (found ++ more, others)
  | a :: rest =>
    let (more, others) := options valued rest
    (more, a :: others)

/-- Whether an option was given. -/
def given (found : List (Char × Bytes)) (c : Char) : Bool := found.any (·.1 == c)

/-- The value of an option, the last one given. -/
def valueOf? (found : List (Char × Bytes)) (c : Char) : Option Bytes :=
  (found.reverse.find? (·.1 == c)).map (·.2)

/-! ## Files -/

/-- Complain about a file. -/
def complainOf (utility : String) (about : String) (o : Obstacle) : Act Unit :=
  complain (utility ++ ": " ++ about ++ ": " ++ o.phrase)

/-- The contents of some files, each with its name, and the status; without files, the input. -/
def contents (utility : String) (files : List Bytes) : Act (List (String × Bytes) × Nat) := do
  if files.isEmpty then return ([("-", ← readAll)], 0)
  else
    files.foldlM (fun (found, status) file => do
      match ← contentOf file with
      | .ok content => return (found ++ [(text file, content)], status)
      | .error o =>
        complainOf utility (text file) o
        return (found, 1)) ([], 0)

/-- Write the contents of files after a change. -/
def filtering (utility : String) (files : List Bytes) (change : Bytes → Bytes) : Act Nat := do
  let (found, status) ← contents utility files
  say (change (found.map (·.2)).flatten)
  return status

/-- Change the file tree for each of some files; what goes wrong is described. -/
def onFiles (files : List Bytes) (describe : String → String)
    (change : FileTree → String → Except Obstacle FileTree) : Act Nat :=
  files.foldlM (fun status file => do
    match change (← get).tree (text file) with
    | .ok tree =>
      modify fun m => { m with tree }
      return status
    | .error o =>
      complain (describe (text file) ++ ": " ++ o.phrase)
      return 1) 0

/-- The path by which a file goes to a target: below it if the target is a directory. -/
def targetOf (tree : FileTree) (file target : String) : String :=
  match tree.look target with
  | .ok .directory => Path.join target ((Path.fileName? file).getD file)
  | _ => target

/-! ## Texts -/

/-- Write the arguments without looking for escapes, unless asked to. -/
def echoPlain (args : List Bytes) : Act Nat := do
  let isOption (a : Bytes) : Bool :=
    match a with
    | 0x2D :: b :: rest => (b :: rest).all fun b => b == 0x6E || b == 0x65 || b == 0x45
    | _ => false
  let letters := (args.takeWhile isOption).flatten.filter (· != 0x2D)
  let out := [(32 : UInt8)].intercalate (args.dropWhile isOption)
  let escaped := (letters.filter (· != 0x6E)).getLast? == some 0x65
  let (out, stopped) :=
    if escaped then Format.escapes (out.length + 1) [] out else (out, false)
  say (if letters.contains 0x6E || stopped then out else out ++ [10])
  return 0

/-- Write the arguments with their escapes replaced. -/
def echo : Utility := fun args => do
  say (Format.echo args)
  return 0

/-- Write a format filled with the arguments. -/
def printf : Utility := fun args => do
  match if args.head? == some [0x2D, 0x2D] then args.drop 1 else args with
  | [] =>
    complainHere "printf: usage: printf format [arg ...]"
    return 2
  | form :: args =>
    let (out, faults) := Format.printf form args
    for fault in faults do complainHere ("printf: " ++ fault)
    say out
    return if faults.isEmpty then 0 else 1

/-- Write files one after the other. -/
def cat : Utility := fun args => filtering "cat" (options [] args).2 id

/-- Count lines, words, characters or bytes. -/
def wc : Utility := fun args => do
  let (found, files) := options [] args
  let asked := ['l', 'w', 'm', 'c'].filter (given found)
  let letters := if asked.isEmpty then ['l', 'w', 'c'] else asked
  let (texts, status) ← contents "wc" files
  let all := (texts.map (·.2)).flatten
  let rows := texts.map fun (name, s) => (name, letters.map fun c => Filter.count c s)
  let rows :=
    if 1 < files.length then rows ++ [("total", letters.map fun c => Filter.count c all)] else rows
  let width :=
    if letters.length == 1 && files.length ≤ 1 then 1
    else if files.isEmpty then 7
    else (toString all.length).length
  for (name, counts) in rows do
    let label := if files.isEmpty then "" else " " ++ name
    sayLine (Bytes.ofText (Filter.columns width counts ++ label))
  return status

/-- Replace, drop or squeeze the bytes of the input. -/
def tr : Utility := fun args => do
  let (found, sets) := options [] args
  let others := given found 'c' || given found 'C'
  let dropping := given found 'd'
  let squeezing := given found 's'
  let s ← readAll
  match sets with
  | [a] =>
    let set := Filter.members others a
    if dropping then say (Filter.dropBytes set s)
    else if squeezing then say (Filter.squeeze set s)
    else
      complain ("tr: missing operand after '" ++ text a ++ "'")
      return 1
    return 0
  | [a, b] =>
    let set := Filter.members others a
    let target := Filter.members false b
    if dropping then say (Filter.squeeze target (Filter.dropBytes set s))
    else
      let changed := Filter.translate (Filter.table set target) s
      say (if squeezing then Filter.squeeze target changed else changed)
    return 0
  | _ =>
    complain "tr: missing operand"
    return 1

/-- Write the lines that match a pattern; the status tells whether there are any. -/
def grep : Utility := fun args => do
  let (found, operands) := options ['e', 'm'] args
  let patterns := (found.filter (·.1 == 'e')).map (·.2)
  let (patterns, files) := match patterns, operands with
    | [], p :: rest => ([p], rest)
    | ps, rest => (ps, rest)
  if patterns.isEmpty then
    complain "Usage: grep [OPTION]... PATTERNS [FILE]..."
    return 2
  let folded (s : Bytes) : Bytes := if given found 'i' then s.map Bytes.lower else s
  let searches := (patterns.flatMap (·.splitOn 10)).map fun p =>
    if given found 'F' then some (Search.ofText (folded p))
    else Search.ofPattern? (given found 'E') (folded p)
  if searches.any Option.isNone then
    complain "grep: Invalid regular expression"
    return 2
  let searches := searches.filterMap id
  let chosen (line : Bytes) : Bool :=
    let line := folded line
    (searches.any fun q =>
      if given found 'x' then q.body.accepts line else q.occursIn line) != given found 'v'
  let (texts, status) ← contents "grep" files
  let mut any := false
  for (name, s) in texts do
    let hits := ((Filter.lines s).zipIdx 1).filter fun (line, _) => chosen line
    if !hits.isEmpty then any := true
    let label := if files.length ≤ 1 then "" else name ++ ":"
    if given found 'q' then pure ()
    else if given found 'c' then sayLine (Bytes.ofText (label ++ toString hits.length))
    else if given found 'l' then
      if !hits.isEmpty then sayLine (Bytes.ofText (if name == "-" then "(standard input)" else name))
    else
      for (line, n) in hits do
        if given found 'o' then
          for part in searches.flatMap (Filter.matchesOf · (line.length + 1) true line) do
            sayLine (Bytes.ofText label ++ part)
        else
        let number := if given found 'n' then toString n ++ ":" else ""
        sayLine (Bytes.ofText (label ++ number) ++ line)
  return if any && (status == 0 || given found 'q') then 0 else if status == 0 then 1 else 2

/-- The arguments with a count such as `-5` spelt out. -/
def spellCount (args : List Bytes) : List Bytes :=
  args.map fun a =>
    match a with
    | 0x2D :: b :: rest => if 0x30 ≤ b && b ≤ 0x39 then 0x2D :: 0x6E :: b :: rest else a
    | a => a

/-- Write the first lines or bytes. -/
def head : Utility := fun args => do
  let (found, files) := options ['n', 'c'] (spellCount args)
  match valueOf? found 'c' with
  | some n =>
    let n := (Format.decimal 0 n).1
    if files.map text == ["/dev/zero"] then
      say (List.replicate n 0)
      return 0
    else filtering "head" files (·.take n)
  | none =>
    let n := ((valueOf? found 'n').map fun v => (Format.decimal 0 v).1).getD 10
    filtering "head" files (Filter.firstLines n)

/-- Write the last lines or bytes. -/
def tail : Utility := fun args => do
  let (found, files) := options ['n', 'c'] (spellCount args)
  let count (v : Bytes) : Bool × Nat :=
    match v with
    | 0x2B :: v => (true, (Format.decimal 0 v).1)
    | v => (false, (Format.decimal 0 v).1)
  match valueOf? found 'c' with
  | some v =>
    let (fromFront, n) := count v
    filtering "tail" files fun s => s.drop (if fromFront then n - 1 else s.length - n)
  | none =>
    let (fromFront, n) := ((valueOf? found 'n').map count).getD (false, 10)
    filtering "tail" files fun s =>
      if fromFront then ((Filter.wholeLines s).drop (n - 1)).flatten else Filter.lastLines n s

/-- Write lines in order. -/
def sort : Utility := fun args => do
  let (found, files) := options ['k', 't', 'o'] args
  filtering "sort" files fun s => Filter.unlines (Filter.sorted (found.map (·.1)) (Filter.lines s))

/-- Write one of each run of equal lines. -/
def uniq : Utility := fun args => do
  let (found, files) := options [] args
  filtering "uniq" files fun s =>
    Filter.unlines <| (Filter.runs (Filter.lines s)).map fun (n, l) =>
      if given found 'c' then Bytes.ofText (Filter.columns 7 [n] ++ " ") ++ l else l

/-- Write chosen fields or columns of each line. -/
def cut : Utility := fun args => do
  let (found, files) := options ['d', 'f', 'c', 'b'] args
  let separator := ((valueOf? found 'd').bind List.head?).getD 9
  filtering "cut" files fun s =>
    Filter.unlines <| (Filter.lines s).map fun l =>
      match valueOf? found 'f', valueOf? found 'c', valueOf? found 'b' with
      | some list, _, _ => Filter.fields separator (Filter.ranges (text list)) l
      | none, some list, _ => Filter.pick (Filter.ranges (text list)) l
      | none, none, some list => Filter.pick (Filter.ranges (text list)) l
      | none, none, none => l

/-- Edit each line. -/
def sed : Utility := fun args => do
  let (found, operands) := options ['e'] args
  let chosen := (found.filter (·.1 == 'e')).map (·.2)
  let (scripts, files) := match chosen, operands with
    | [], script :: rest => ([script], rest)
    | ss, rest => (ss, rest)
  let extended := given found 'E' || given found 'r'
  let edits := (scripts.flatMap (·.splitOn 0x3B)).map (Filter.Edit.read? extended)
  if edits.any Option.isNone then
    complain "sed: -e expression #1, char 1: unknown command"
    return 1
  filtering "sed" files fun s => (edits.filterMap id).foldl (fun s e => e.onLines s) s

/-- Write the input to files and to the output. -/
def tee : Utility := fun args => do
  let (found, files) := options [] args
  let s ← readAll
  let status ← files.foldlM (fun status file => do
    match ← openSink (text file) (given found 'a') with
    | .ok sink =>
      modify (·.put s sink)
      return status
    | .error o =>
      complainOf "tee" (text file) o
      return 1) 0
  say s
  return status

/-- Write the digests of files. -/
def sha256sum : Utility := fun args => do
  let (_, files) := options [] args
  let (texts, status) ← contents "sha256sum" files
  for (name, s) in texts do
    sayLine (Bytes.ofText (Sha256.hex (Sha256.digest s) ++ "  " ++ name))
  return status

/-- A text in lines of 76 characters. -/
def wrapped : Nat → List Char → List Char
  | 0, _ => []
  | fuel + 1, s =>
    if s.isEmpty then [] else s.take 76 ++ '\n' :: wrapped fuel (s.drop 76)

/-- Encode in base 64, or decode. -/
def base64 : Utility := fun args => do
  let (found, files) := options ['w'] args
  let (texts, status) ← contents "base64" files
  let s := (texts.map (·.2)).flatten
  if given found 'd' then
    match Base64.decode? (text (s.filter (· != 10))) with
    | some s =>
      say s
      return status
    | none =>
      complain "base64: invalid input"
      return 1
  else
    let encoded := (Base64.encode s).toList
    let lines := if given found 'w' then encoded else wrapped (encoded.length + 1) encoded
    say (Bytes.ofText (String.ofList lines))
    return status

/-! ## Conditions, numbers and paths -/

/-- Evaluate a condition on behalf of a command. -/
def evaluate (command : String) : Utility := fun args => do
  match Condition.value? (← get).tree args with
  | some b => return if b then 0 else 1
  | none =>
    complainHere (command ++ ": " ++ Condition.complaint args)
    return 2

/-- Evaluate a condition. -/
def test : Utility := evaluate "test"

/-- Evaluate a condition that a closing bracket follows. -/
def bracket : Utility := fun args => do
  if args.getLast? == some [0x5D] then evaluate "[" args.dropLast
  else
    complainHere "[: missing ]"
    return 2

/-- Write the numbers from one to another. -/
def seq : Utility := fun args => do
  let numbers := args.map Condition.number?
  let bounds : Option (Int × Int × Int) := match numbers with
    | [some last] => some (1, 1, last)
    | [some first, some last] => some (first, 1, last)
    | [some first, some step, some last] => some (first, step, last)
    | _ => none
  match bounds with
  | none =>
    complain "seq: invalid argument"
    return 1
  | some (first, step, last) =>
    if step = 0 then
      complain "seq: invalid Zero increment value: '0'"
      return 1
    let count := ((last - first) / step + 1).toNat
    say <| Filter.unlines <| (List.range count).map fun (i : Nat) => Bytes.ofText (toString (first + step * (i : Int)))
    return 0

/-- Write the last step of a path. -/
def basename : Utility
  | path :: rest => do
    let path := text path
    let name := (Path.steps path).getLast?.getD (if path == "" then "" else "/")
    let kept := match rest with
      | ending :: _ => if text ending != name && endsText name (text ending) then
          String.ofList (name.toList.take (name.length - (text ending).length)) else name
      | [] => name
    sayLine (Bytes.ofText kept)
    return 0
  | [] => do
    complain "basename: missing operand"
    return 1

/-- Write a path without its last step. -/
def dirname : Utility
  | path :: _ => do
    let above := (Path.parent? (text path)).getD "/"
    sayLine (Bytes.ofText (if above == "" then "." else above))
    return 0
  | [] => do
    complain "dirname: missing operand"
    return 1

/-- Write the working directory. -/
def pwd : Utility := fun _ => do
  sayLine (Bytes.ofText ("/" ++ "/".intercalate (← get).tree.workingDirectory))
  return 0

/-- Write exported variables. -/
def printenv : Utility := fun args => do
  let vars := (← get).environment
  match args with
  | [] =>
    for (name, value) in vars do sayLine (Bytes.ofText (name ++ "=") ++ value)
    return 0
  | names =>
    names.foldlM (fun status name => do
      match vars.find? (·.1 == text name) with
      | some (_, value) =>
        sayLine value
        return status
      | none => return 1) 0

/-! ## Changing the file tree -/

/-- Make directories. -/
def mkdir : Utility := fun args => do
  let (found, paths) := options ['m'] args
  if given found 'p' then
    onFiles paths (fun p => "mkdir: cannot create directory '" ++ p ++ "'") FileTree.makeDirectories
  else
    onFiles paths (fun p => "mkdir: cannot create directory '" ++ p ++ "'") FileTree.makeDirectory

/-- Remove empty directories. -/
def rmdir : Utility := fun args =>
  (options [] args).2.foldlM (fun status file => do
    let path := text file
    let refuse (why : String) : Act Nat := do
      complain ("rmdir: failed to remove '" ++ path ++ "': " ++ why)
      return 1
    let tree := (← get).tree
    match tree.list path, tree.removeAll path with
    | .ok [], .ok tree =>
      modify fun m => { m with tree }
      return status
    | .ok _, _ => refuse "Directory not empty"
    | .error o, _ => refuse o.phrase) 0

/-- Remove files, or whole trees. -/
def rm : Utility := fun args => do
  let (found, paths) := options [] args
  onFiles paths (fun p => "rm: cannot remove '" ++ p ++ "'") fun tree path =>
    let removed :=
      if given found 'r' || given found 'R' then tree.removeAll path else tree.remove path
    match removed with
    | .error .missing => if given found 'f' then .ok tree else .error .missing
    | removed => removed

/-- Make files where nothing stands. -/
def touch : Utility := fun args =>
  onFiles (options ['d', 't', 'r'] args).2 (fun p => "touch: cannot touch '" ++ p ++ "'")
    fun tree path => if tree.isThere path then .ok tree else tree.write path []

/-- Copy files. -/
def cp : Utility := fun args => do
  let (_, paths) := options [] args
  match paths.reverse with
  | target :: file :: more =>
    onFiles (file :: more).reverse (fun p => "cp: cannot stat '" ++ p ++ "'") fun tree path =>
      match tree.read path with
      | .ok content => tree.write (targetOf tree path (text target)) content
      | .error o => .error o
  | _ =>
    complain "cp: missing file operand"
    return 1

/-- Move files. -/
def mv : Utility := fun args => do
  let (_, paths) := options [] args
  match paths.reverse with
  | target :: file :: more =>
    onFiles (file :: more).reverse (fun p => "mv: cannot stat '" ++ p ++ "'") fun tree path =>
      tree.rename path (targetOf tree path (text target))
  | _ =>
    complain "mv: missing file operand"
    return 1

/-- Write the names in directories. -/
def ls : Utility := fun args => do
  let (_, paths) := options [] args
  let paths := if paths.isEmpty then [Bytes.ofText "."] else paths
  paths.foldlM (fun status path => do
    let tree := (← get).tree
    match tree.list (text path) with
    | .ok children =>
      for (name, _) in children do
        if !startsText name "." then sayLine (Bytes.ofText name)
      return status
    | .error .notDirectory =>
      sayLine path
      return status
    | .error o =>
      complain ("ls: cannot access '" ++ text path ++ "': " ++ o.phrase)
      return 2) 0

/-! ## Time and signals -/

/-- The milliseconds of a duration such as `1.5` or `2m`. -/
def duration? (s : String) : Option Nat := do
  let digits (cs : List Char) : Bool := cs.all Char.isDigit
  let (body, unit) := match s.toList.reverse with
    | 's' :: rest => (rest.reverse, 1000)
    | 'm' :: rest => (rest.reverse, 60000)
    | 'h' :: rest => (rest.reverse, 3600000)
    | 'd' :: rest => (rest.reverse, 86400000)
    | _ => (s.toList, 1000)
  let whole := body.takeWhile (· != '.')
  let fraction := (body.drop whole.length).drop 1
  if body.isEmpty || !digits whole || !digits fraction then none
  let value (cs : List Char) : Nat := ((String.ofList cs).toNat?).getD 0
  return value whole * unit + value fraction * unit / Nat.pow 10 fraction.length

/-- Let time pass. -/
def sleep : Utility
  | [] => do
    complain "sleep: missing operand"
    return 1
  | args => do
    if args.any fun a => text a == "infinity" then throw .late
    match args.mapM fun a => duration? (text a) with
    | some times =>
      wait (times.foldl (· + ·) 0)
      return 0
    | none =>
      complain "sleep: invalid time interval"
      return 1

/-- The signals by name. -/
def signals : List (String × Nat) :=
  [("HUP", 1), ("INT", 2), ("QUIT", 3), ("ILL", 4), ("TRAP", 5), ("ABRT", 6), ("BUS", 7),
   ("FPE", 8), ("KILL", 9), ("USR1", 10), ("SEGV", 11), ("USR2", 12), ("PIPE", 13), ("ALRM", 14),
   ("TERM", 15), ("CHLD", 17), ("CONT", 18), ("STOP", 19), ("URG", 23), ("WINCH", 28)]

/-- The signal that a text names. -/
def signal? (s : String) : Option Nat :=
  match s.toNat? with
  | some n => if n < 65 then some n else none
  | none =>
    let name := s.map Char.toUpper
    let name := if startsText name "SIG" then String.ofList (name.toList.drop 3) else name
    if name == "EXIT" then some 0 else (signals.find? (·.1 == name)).map (·.2)

/-- Whether a signal ends a process that does nothing about it. -/
def isDeadly (signal : Nat) : Bool := !([0, 17, 18, 23, 28] : List Nat).contains signal

/-- Send a signal; only the shell itself can be reached. -/
def kill : Utility := fun args => do
  let (signal, targets) := match args.map text with
    | "-s" :: name :: rest => (signal? name, rest)
    | first :: rest =>
      match first.toList with
      | '-' :: name => if first == "--" then (some 15, rest) else (signal? (String.ofList name), rest)
      | _ => (some 15, first :: rest)
    | [] => (some 15, [])
  match signal with
  | none =>
    complainHere "kill: Illegal option"
    return 2
  | some signal =>
    targets.foldlM (fun status target => do
      let m ← get
      match target.toNat? with
      | some n =>
        if n == m.process then
          if signal == 19 then throw .late
          else if isDeadly signal then throw (.killed n signal)
          else return status
        else
          complainHere "kill: No such process"
          return 1
      | none =>
        complainHere ("kill: Illegal number: " ++ target)
        return 2) 0

end Utility

/-- The utility of a name. -/
def utility? (name : String) : Option Utility :=
  match name with
  | "true" => some fun _ => return 0
  | "false" => some fun _ => return 1
  | "echo" => some Utility.echo
  | "printf" => some Utility.printf
  | "cat" => some Utility.cat
  | "wc" => some Utility.wc
  | "tr" => some Utility.tr
  | "grep" => some Utility.grep
  | "egrep" => some fun args => Utility.grep (Bytes.ofText "-E" :: args)
  | "fgrep" => some fun args => Utility.grep (Bytes.ofText "-F" :: args)
  | "head" => some Utility.head
  | "tail" => some Utility.tail
  | "sort" => some Utility.sort
  | "uniq" => some Utility.uniq
  | "cut" => some Utility.cut
  | "sed" => some Utility.sed
  | "tee" => some Utility.tee
  | "sha256sum" => some Utility.sha256sum
  | "base64" => some Utility.base64
  | "test" => some Utility.test
  | "[" => some Utility.bracket
  | "seq" => some Utility.seq
  | "basename" => some Utility.basename
  | "dirname" => some Utility.dirname
  | "pwd" => some Utility.pwd
  | "printenv" => some Utility.printenv
  | "mkdir" => some Utility.mkdir
  | "rmdir" => some Utility.rmdir
  | "rm" => some Utility.rm
  | "touch" => some Utility.touch
  | "cp" => some Utility.cp
  | "mv" => some Utility.mv
  | "ls" => some Utility.ls
  | "chmod" => some fun _ => return 0
  | "sync" => some fun _ => return 0
  | "sleep" => some Utility.sleep
  | "kill" => some Utility.kill
  | _ => none

end Interpose.Shell
