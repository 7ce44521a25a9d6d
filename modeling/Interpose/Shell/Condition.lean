import Interpose.Shell.Filter

/-!
# Conditions

The expressions of `test`: what stands at a path, whether a text is empty, and how texts and numbers
compare. Up to four arguments their number decides how they are read; beyond that `-o` joins what
`-a` joins. `none` stands for an expression that is not well formed.
-/

namespace Interpose.Shell.Condition

/-- The number that an argument writes. -/
def number? (s : Bytes) : Option Int :=
  let t := Bytes.trim s
  let (negative, digits) := match t with
    | 0x2D :: rest => (true, rest)
    | 0x2B :: rest => (false, rest)
    | t => (false, t)
  let (n, rest) := Format.decimal 0 digits
  if digits.isEmpty || !rest.isEmpty then none else some (if negative then -(n : Int) else n)

/-- The value of an operator on one argument. -/
def unary? (tree : FileTree) (operator : String) (a : Bytes) : Option Bool :=
  let path := Utf8.decodeLossy a
  match operator with
  | "-n" => some !a.isEmpty
  | "-z" => some a.isEmpty
  | "-e" | "-r" | "-w" => some (tree.isThere path || path == "/dev/null")
  | "-f" => some (tree.isFile path)
  | "-d" => some (tree.isThere path && !tree.isFile path)
  | "-x" => some (tree.isThere path && !tree.isFile path)
  | "-s" =>
    match tree.look path with
    | .ok (.file content) => some !content.isEmpty
    | .ok .directory => some true
    | .error _ => some false
  | "-c" => some (path == "/dev/null")
  | "-b" | "-g" | "-h" | "-k" | "-L" | "-p" | "-S" | "-t" | "-u" => some false
  | _ => none

/-- Whether an argument is an operator between two arguments. -/
def isBinary (operator : String) : Bool :=
  ["=", "==", "!=", "<", ">", "-eq", "-ne", "-lt", "-le", "-gt", "-ge"].contains operator

/-- The value of an operator between two arguments. -/
def binary? (operator : String) (a b : Bytes) : Option Bool :=
  match operator with
  | "=" | "==" => some (a == b)
  | "!=" => some (a != b)
  | "<" => some (a != b && Filter.before a b)
  | ">" => some (a != b && Filter.before b a)
  | _ => do
    let m ← number? a
    let n ← number? b
    match operator with
    | "-eq" => return m == n
    | "-ne" => return m != n
    | "-lt" => return decide (m < n)
    | "-le" => return decide (m ≤ n)
    | "-gt" => return decide (n < m)
    | "-ge" => return decide (n ≤ m)
    | _ => none

mutual

/-- Read alternatives off the front of some arguments. -/
def either? (tree : FileTree) : Nat → List Bytes → Option (Bool × List Bytes)
  | 0, _ => none
  | fuel + 1, args => do
    let (a, rest) ← both? tree fuel args
    match rest with
    | [0x2D, 0x6F] :: rest => do
      let (b, rest) ← either? tree fuel rest
      return (a || b, rest)
    | rest => return (a, rest)

/-- Read what `-a` joins. -/
def both? (tree : FileTree) : Nat → List Bytes → Option (Bool × List Bytes)
  | 0, _ => none
  | fuel + 1, args => do
    let (a, rest) ← single? tree fuel args
    match rest with
    | [0x2D, 0x61] :: rest => do
      let (b, rest) ← both? tree fuel rest
      return (a && b, rest)
    | rest => return (a, rest)

/-- Read a single condition. -/
def single? (tree : FileTree) : Nat → List Bytes → Option (Bool × List Bytes)
  | 0, _ => none
  | fuel + 1, args =>
    let three : Option (Bool × List Bytes) := match args with
      | a :: o :: b :: rest =>
        let operator := Utf8.decodeLossy o
        if isBinary operator then (binary? operator a b).map (·, rest) else none
      | _ => none
    match three, args with
    | some found, _ => some found
    | none, [0x21] :: rest => (single? tree fuel rest).map fun (b, rest) => (!b, rest)
    | none, [0x28] :: rest =>
      match either? tree fuel rest with
      | some (b, [0x29] :: rest) => some (b, rest)
      | _ => none
    | none, o :: a :: rest =>
      match unary? tree (Utf8.decodeLossy o) a with
      | some b => some (b, rest)
      | none => some (!o.isEmpty, a :: rest)
    | none, [a] => some (!a.isEmpty, [])
    | none, [] => none

end

/-- The value of an expression that is read as a whole. -/
def whole? (tree : FileTree) (args : List Bytes) : Option Bool :=
  match either? tree (4 * args.length + 4) args with
  | some (b, []) => some b
  | _ => none

/-- The value of an expression. -/
def value? (tree : FileTree) : List Bytes → Option Bool
  | [] => some false
  | [a] => some !a.isEmpty
  | [[0x21], a] => some a.isEmpty
  | [o, a] => unary? tree (Utf8.decodeLossy o) a
  | [a, o, b] =>
    let operator := Utf8.decodeLossy o
    if isBinary operator then binary? operator a b else whole? tree [a, o, b]
  | args => whole? tree args

/-- What is wrong with an expression that has no value. -/
def complaint (args : List Bytes) : String :=
  let wrong := args.find? fun a => (number? a).isNone && !isBinary (Utf8.decodeLossy a)
  match args with
  | [_, o, _] =>
    if isBinary (Utf8.decodeLossy o) then
      "Illegal number: " ++ Utf8.decodeLossy (wrong.getD [])
    else Utf8.decodeLossy (args.headD []) ++ ": unexpected operator"
  | args => Utf8.decodeLossy (args.headD []) ++ ": unexpected operator"

end Interpose.Shell.Condition
