import Interpose.Bytes

/-!
# Patterns

A pattern is a regular expression over bytes, matched by derivatives: `p.after b` matches what may
follow `b` in a match of `p`. Two notations are read into patterns, that of file name patterns and
that of `grep`.
-/

namespace Interpose.Shell

/-- A pattern. -/
inductive Pattern
  | never
  | empty
  | one (accepts : UInt8 → Bool)
  | then_ (a b : Pattern)
  | either (a b : Pattern)
  | many (a : Pattern)

namespace Pattern

/-- Whether a pattern matches the empty text. -/
def nullable : Pattern → Bool
  | never => false
  | empty => true
  | one _ => false
  | then_ a b => a.nullable && b.nullable
  | either a b => a.nullable || b.nullable
  | many _ => true

/-- One pattern after another; an impossible one makes the whole impossible. -/
def join : Pattern → Pattern → Pattern
  | never, _ => never
  | _, never => never
  | empty, b => b
  | a, empty => a
  | a, b => then_ a b

/-- Either of two patterns; an impossible one drops out. -/
def choose : Pattern → Pattern → Pattern
  | never, b => b
  | a, never => a
  | empty, empty => empty
  | a, b => either a b

/-- What may follow a byte. -/
def after (b : UInt8) : Pattern → Pattern
  | never => never
  | empty => never
  | one accepts => if accepts b then empty else never
  | then_ p q =>
    if p.nullable then choose (join (p.after b) q) (q.after b) else join (p.after b) q
  | either p q => choose (p.after b) (q.after b)
  | many p => join (p.after b) (many p)

/-- Whether a pattern matches a whole text. -/
def accepts (p : Pattern) : Bytes → Bool
  | [] => p.nullable
  | b :: rest => (p.after b).accepts rest

/-- Whether a pattern matches some front part of a text. -/
def opens (p : Pattern) : Bytes → Bool
  | [] => p.nullable
  | b :: rest => p.nullable || (p.after b).opens rest

/-- Whether a pattern is the impossible one. -/
def isNever : Pattern → Bool
  | never => true
  | _ => false

/-- The lengths of the front parts of a text that a pattern matches, in ascending order. -/
def fronts (p : Pattern) (length : Nat) : Bytes → List Nat
  | [] => if p.nullable then [length] else []
  | b :: rest =>
    let more := if p.isNever then [] else (p.after b).fronts (length + 1) rest
    if p.nullable then length :: more else more

/-- A single byte. -/
def byte (b : UInt8) : Pattern := one (· == b)

/-- Any byte. -/
def anyByte : Pattern := one fun _ => true

/-! ## Sets of bytes -/

/-- Whether a byte belongs to a named class. -/
def inClass (name : String) (b : UInt8) : Bool :=
  let c := Char.ofNat b.toNat
  let ascii := b < 128
  match name with
  | "alpha" => ascii && c.isAlpha
  | "digit" => ascii && c.isDigit
  | "alnum" => ascii && c.isAlphanum
  | "upper" => ascii && c.isUpper
  | "lower" => ascii && c.isLower
  | "space" => (9 ≤ b && b ≤ 13) || b == 32
  | "blank" => b == 9 || b == 32
  | "punct" => 33 ≤ b && b ≤ 126 && !c.isAlphanum
  | "print" => 32 ≤ b && b ≤ 126
  | "graph" => 33 ≤ b && b ≤ 126
  | "cntrl" => b < 32 || b == 127
  | "xdigit" => ascii && (c.isDigit || ('a' ≤ c.toLower && c.toLower ≤ 'f'))
  | _ => false

/-- The name of a class after its opening, and what follows its closing. -/
def className? (done : Bytes) : Bytes → Option (String × Bytes)
  | 0x3A :: 0x5D :: rest =>
    some (String.ofList (done.reverse.map fun b => Char.ofNat b.toNat), rest)
  | b :: rest => className? (b :: done) rest
  | [] => none

/-- The members of a set up to its closing bracket, which may stand first as a member. -/
def members? : Nat → Bool → (UInt8 → Bool) → Bytes → Option ((UInt8 → Bool) × Bytes)
  | 0, _, _, _ => none
  | fuel + 1, first, accepts, s =>
    match s with
    | [] => none
    | 0x5B :: 0x3A :: rest =>
      match className? [] rest with
      | some (name, rest) => members? fuel false (fun b => accepts b || inClass name b) rest
      | none => none
    | 0x5D :: rest =>
      if first then members? fuel false (fun b => accepts b || b == 0x5D) rest
      else some (accepts, rest)
    | low :: 0x2D :: high :: rest =>
      if high == 0x5D then
        members? fuel false (fun b => accepts b || b == low) (0x2D :: high :: rest)
      else members? fuel false (fun b => accepts b || (low ≤ b && b ≤ high)) rest
    | b :: rest => members? fuel false (fun c => accepts c || c == b) rest

/-- A set after its opening bracket. -/
def set? (s : Bytes) : Option (Pattern × Bytes) :=
  let (negated, inside) := match s with
    | 0x21 :: rest => (true, rest)
    | 0x5E :: rest => (true, rest)
    | s => (false, s)
  (members? (inside.length + 1) true (fun _ => false) inside).map fun (accepts, rest) =>
    (one fun b => accepts b != negated, rest)

/-! ## File name patterns -/

/-- The pattern of a word whose bytes are marked as quoted or not. A quoted byte stands for
itself. -/
def glob : Nat → List (Bool × UInt8) → Pattern
  | 0, _ => never
  | fuel + 1, s =>
    match s with
    | [] => empty
    | (quoted, b) :: rest =>
      if quoted then join (byte b) (glob fuel rest)
      else if b == 0x2A then join (many anyByte) (glob fuel rest)
      else if b == 0x3F then join anyByte (glob fuel rest)
      else if b == 0x5B then
        match set? (rest.map (·.2)) with
        | some (p, after) => join p (glob fuel (rest.drop (rest.length - after.length)))
        | none => join (byte b) (glob fuel rest)
      else join (byte b) (glob fuel rest)

/-! ## Patterns of grep -/

mutual

/-- Read alternatives. In the extended notation operators stand bare, in the basic one after a
backslash. -/
def alternatives? (extended : Bool) : Nat → Bytes → Option (Pattern × Bytes)
  | 0, _ => none
  | fuel + 1, s => do
    let (p, s) ← pieces? extended fuel s
    let more := match extended, s with
      | true, 0x7C :: rest => some rest
      | false, 0x5C :: 0x7C :: rest => some rest
      | _, _ => none
    match more with
    | some rest => do
      let (q, rest) ← alternatives? extended fuel rest
      return (choose p q, rest)
    | none => return (p, s)

/-- Read pieces one after the other. -/
def pieces? (extended : Bool) : Nat → Bytes → Option (Pattern × Bytes)
  | 0, _ => none
  | fuel + 1, s =>
    let ends := match extended, s with
      | true, 0x7C :: _ => true
      | true, 0x29 :: _ => true
      | false, 0x5C :: 0x7C :: _ => true
      | false, 0x5C :: 0x29 :: _ => true
      | _, [] => true
      | _, _ => false
    if ends then some (empty, s)
    else do
      let (p, s) ← atom? extended fuel s
      let (p, s) := repeated extended p s
      let (q, s) ← pieces? extended fuel s
      return (join p q, s)

/-- Read an atom. -/
def atom? (extended : Bool) : Nat → Bytes → Option (Pattern × Bytes)
  | 0, _ => none
  | fuel + 1, s =>
    match s with
    | [] => none
    | 0x2E :: rest => some (anyByte, rest)
    | 0x5B :: rest => set? rest
    | 0x28 :: rest =>
      if extended then do
        let (p, rest) ← alternatives? extended fuel rest
        match rest with
        | 0x29 :: rest => return (p, rest)
        | _ => none
      else some (byte 0x28, rest)
    | 0x5C :: 0x28 :: rest =>
      if extended then some (byte 0x28, rest)
      else do
        let (p, rest) ← alternatives? extended fuel rest
        match rest with
        | 0x5C :: 0x29 :: rest => return (p, rest)
        | _ => none
    | 0x5C :: b :: rest => some (byte b, rest)
    | b :: rest => some (byte b, rest)

/-- A piece with the repetitions after it. -/
def repeated (extended : Bool) (p : Pattern) : Bytes → Pattern × Bytes
  | 0x2A :: rest => repeated extended (many p) rest
  | 0x2B :: rest => if extended then repeated extended (join p (many p)) rest else (p, 0x2B :: rest)
  | 0x3F :: rest => if extended then repeated extended (choose empty p) rest else (p, 0x3F :: rest)
  | 0x5C :: 0x2B :: rest =>
    if extended then (p, 0x5C :: 0x2B :: rest) else repeated extended (join p (many p)) rest
  | 0x5C :: 0x3F :: rest =>
    if extended then (p, 0x5C :: 0x3F :: rest) else repeated extended (choose empty p) rest
  | s => (p, s)

end

end Pattern

/-! ## Searching lines -/

/-- What to look for in a line: a pattern, and whether the line must start or stop with it. -/
structure Search where
  start : Bool := false
  stop : Bool := false
  body : Pattern

namespace Search

/-- Read what to look for; `^` at the front and `$` at the end tie it to the ends of the line. -/
def ofPattern? (extended : Bool) (s : Bytes) : Option Search := do
  let (start, s) := match s with
    | 0x5E :: rest => (true, rest)
    | s => (false, s)
  let (stop, s) := match s.reverse with
    | 0x24 :: rest => (true, rest.reverse)
    | _ => (false, s)
  let (body, rest) ← Pattern.alternatives? extended (4 * s.length + 8) s
  if rest.isEmpty then return { start, stop, body } else none

/-- A search for a text as it is written. -/
def ofText (s : Bytes) : Search :=
  { body := s.foldr (fun b p => Pattern.join (Pattern.byte b) p) .empty }

/-- Whether a line holds what is looked for. -/
def occursIn (q : Search) (line : Bytes) : Bool :=
  let p := if q.start then q.body else Pattern.join (.many Pattern.anyByte) q.body
  if q.stop then p.accepts line else p.opens line

/-- The length of the longest match at the front of what is left of a line. -/
def longest? (q : Search) (atStart : Bool) (left : Bytes) : Option Nat :=
  if q.start && !atStart then none
  else if q.stop then if q.body.accepts left then some left.length else none
  else (q.body.fronts 0 left).getLast?

end Search

end Interpose.Shell
