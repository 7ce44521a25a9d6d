import Interpose.Bytes

/-!
# Sums in scripts

The value of an arithmetic expression over integers and variables. Binary operators are read level
by level, the loosest first; an assignment may stand at the front. `none` stands for an expression
that is not well formed or divides by zero.
-/

namespace Interpose.Shell.Sum

/-- The value of a comparison. -/
def truth (b : Bool) : Int := if b then 1 else 0

/-- The value of a binary operator. -/
def combine? (operator : String) (a b : Int) : Option Int :=
  match operator with
  | "||" => some (truth (a != 0 || b != 0))
  | "&&" => some (truth (a != 0 && b != 0))
  | "|" => some (Int.ofNat (a.toNat ||| b.toNat))
  | "^" => some (Int.ofNat (a.toNat ^^^ b.toNat))
  | "&" => some (Int.ofNat (a.toNat &&& b.toNat))
  | "==" => some (truth (a == b))
  | "!=" => some (truth (a != b))
  | "<=" => some (truth (a ≤ b))
  | ">=" => some (truth (b ≤ a))
  | "<" => some (truth (a < b))
  | ">" => some (truth (b < a))
  | "<<" => some (a * Int.ofNat (Nat.pow 2 (b.toNat % 64)))
  | ">>" => some (a / Int.ofNat (Nat.pow 2 (b.toNat % 64)))
  | "+" => some (a + b)
  | "-" => some (a - b)
  | "*" => some (a * b)
  | "/" => if b = 0 then none else some (a.tdiv b)
  | "%" => if b = 0 then none else some (a.tmod b)
  | _ => none

/-- The binary operators by level, the loosest first. A longer operator stands before one that it
starts with. -/
def levels : List (List String) :=
  [["||"], ["&&"], ["|"], ["^"], ["&"], ["==", "!="], ["<=", ">=", "<", ">"], ["<<", ">>"],
   ["+", "-"], ["*", "/", "%"]]

/-- Skip blanks. -/
def skip (s : List Char) : List Char := s.dropWhile Char.isWhitespace

/-- Take one of some operators off the front. One that starts a longer operator is not taken. -/
def operator? (operators : List String) (s : List Char) : Option (String × List Char) :=
  let s := skip s
  let found := operators.findSome? fun o => (stripFront? o.toList s).map (o, ·)
  match found with
  | some ("|", '|' :: _) | some ("&", '&' :: _) => none
  | some ("<", '<' :: _) | some (">", '>' :: _) => none
  | found => found

/-- The number that digits of a base write, and what follows them. -/
def digits (base : Nat) (n : Nat) : List Char → Nat × List Char
  | c :: rest =>
    let d :=
      if c.isDigit then c.toNat - 0x30
      else if 'a' ≤ c.toLower ∧ c.toLower ≤ 'f' then c.toLower.toNat - 0x61 + 10
      else base
    if d < base then digits base (n * base + d) rest else (n, c :: rest)
  | [] => (n, [])

/-- The number at the front. -/
def number : List Char → Nat × List Char
  | '0' :: 'x' :: rest => digits 16 0 rest
  | '0' :: 'X' :: rest => digits 16 0 rest
  | '0' :: rest => digits 8 0 rest
  | s => digits 10 0 s

/-- A name at the front. -/
def name? : List Char → Option (String × List Char)
  | c :: rest =>
    if c.isAlpha || c == '_' then
      let more := rest.takeWhile fun c => c.isAlphanum || c == '_'
      some (String.ofList (c :: more), rest.drop more.length)
    else none
  | [] => none

mutual

/-- The value of an expression whose operators belong to some levels. -/
def value? (lookUp : String → Int) : Nat → List (List String) → List Char →
    Option (Int × List Char)
  | 0, _, _ => none
  | fuel + 1, [], s =>
    match skip s with
    | '-' :: rest => (value? lookUp fuel [] rest).map fun (n, r) => (-n, r)
    | '+' :: rest => value? lookUp fuel [] rest
    | '!' :: rest => (value? lookUp fuel [] rest).map fun (n, r) => (truth (n == 0), r)
    | '~' :: rest => (value? lookUp fuel [] rest).map fun (n, r) => (-n - 1, r)
    | '(' :: rest =>
      match value? lookUp fuel levels rest with
      | some (n, rest) =>
        match skip rest with
        | ')' :: rest => some (n, rest)
        | _ => none
      | none => none
    | s =>
      match name? s with
      | some (name, rest) => some (lookUp name, rest)
      | none => if s.head?.any Char.isDigit then
          let (n, rest) := number s
          some ((n : Int), rest)
        else none
  | fuel + 1, operators :: more, s =>
    match value? lookUp fuel more s with
    | some (a, rest) => chain? lookUp fuel operators more a rest
    | none => none

/-- The value of what is joined to `a` by operators of one level. -/
def chain? (lookUp : String → Int) : Nat → List String → List (List String) → Int → List Char →
    Option (Int × List Char)
  | 0, _, _, _, _ => none
  | fuel + 1, operators, more, a, s =>
    match operator? operators s with
    | none => some (a, s)
    | some (o, rest) =>
      match value? lookUp fuel more rest with
      | none => none
      | some (b, rest) =>
        match combine? o a b with
        | none => none
        | some n => chain? lookUp fuel operators more n rest

end

/-- The value of a whole expression without assignments. An empty one is zero. -/
def plain? (lookUp : String → Int) (s : List Char) : Option Int :=
  if (skip s).isEmpty then some 0
  else
    match value? lookUp (24 * s.length + 48) levels s with
    | some (n, rest) => if (skip rest).isEmpty then some n else none
    | none => none

/-- The value of an expression, and the variable it assigns to if it does. -/
def read? (lookUp : String → Int) (s : List Char) : Option (Int × Option String) :=
  let plain := (plain? lookUp s).map (·, none)
  match name? (skip s) with
  | none => plain
  | some (name, rest) =>
    match skip rest with
    | '=' :: '=' :: _ => plain
    | '=' :: rest => (plain? lookUp rest).map (·, some name)
    | o :: '=' :: rest =>
      if "+-*/%".toList.contains o then do
        return (← combine? o.toString (lookUp name) (← plain? lookUp rest), some name)
      else plain
    | _ => plain

/-- The number that a value of a variable writes, zero if none. -/
def ofText (s : String) : Int :=
  let t := (skip s.toList).reverse.dropWhile Char.isWhitespace |>.reverse
  match t with
  | '-' :: rest => let (n, r) := number rest; if r.isEmpty then -n else 0
  | '+' :: rest => let (n, r) := number rest; if r.isEmpty then n else 0
  | t => let (n, r) := number t; if r.isEmpty then n else 0

end Interpose.Shell.Sum
