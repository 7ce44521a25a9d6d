import Interpose.Shell.Machine
import Interpose.Shell.Sum

/-!
# Escapes and formats

What `echo` and `printf` write: texts with backslash escapes, and formats whose conversions take
arguments. A format is used again while arguments are left.
-/

namespace Interpose.Shell.Format

/-- The byte of a one-letter escape. -/
def letter? (b : UInt8) : Option UInt8 :=
  match Char.ofNat b.toNat with
  | 'a' => some 7
  | 'b' => some 8
  | 't' => some 9
  | 'n' => some 10
  | 'v' => some 11
  | 'f' => some 12
  | 'r' => some 13
  | '\\' => some 92
  | _ => none

/-- The value of an octal digit. -/
def octal? (b : UInt8) : Option Nat :=
  if 0x30 ≤ b ∧ b ≤ 0x37 then some (b.toNat - 0x30) else none

/-- The byte of at most `left` octal digits, and what follows them. -/
def octal (left n : Nat) : Bytes → UInt8 × Bytes
  | b :: rest =>
    match left, octal? b with
    | left + 1, some d => octal left (n * 8 + d) rest
    | _, _ => (UInt8.ofNat (n % 256), b :: rest)
  | [] => (UInt8.ofNat (n % 256), [])

/-- An escape after its backslash: the bytes it stands for, and what follows it. -/
def escape (s : Bytes) : Bytes × Bytes :=
  match s with
  | [] => ([92], [])
  | b :: rest =>
    match letter? b with
    | some e => ([e], rest)
    | none =>
      if (octal? b).isSome then
        let (e, rest) := octal 3 0 s
        ([e], rest)
      else if b == 0x22 then ([0x22], rest)
      else ([92, b], rest)

/-- A text with its escapes replaced, and whether an escape ended all output. An octal escape starts
with a zero that does not count. -/
def escapes : Nat → Bytes → Bytes → Bytes × Bool
  | 0, done, s => (done.reverse ++ s, false)
  | fuel + 1, done, s =>
    match s with
    | [] => (done.reverse, false)
    | 92 :: 0x63 :: _ => (done.reverse, true)
    | 92 :: 0x30 :: rest =>
      let (b, rest) := octal 3 0 rest
      escapes fuel (b :: done) rest
    | 92 :: rest =>
      let (e, rest) := escape rest
      escapes fuel (e.reverse ++ done) rest
    | b :: rest => escapes fuel (b :: done) rest

/-- What `echo` writes for its arguments. -/
def echo (arguments : List Bytes) : Bytes :=
  let (newline, arguments) := match arguments with
    | [0x2D, 0x6E] :: rest => (false, rest)
    | arguments => (true, arguments)
  let text := [(32 : UInt8)].intercalate arguments
  let (out, stopped) := escapes (text.length + 1) [] text
  if newline && !stopped then out ++ [10] else out

/-! ## Formats -/

/-- A conversion between its percent sign and its letter. -/
structure Conversion where
  left : Bool := false
  zero : Bool := false
  plus : Bool := false
  blank : Bool := false
  alternate : Bool := false
  width : Nat := 0
  precision : Option Nat := none

/-- Read the flags of a conversion. -/
def flags (c : Conversion) : Bytes → Conversion × Bytes
  | 0x2D :: rest => flags { c with left := true } rest
  | 0x30 :: rest => flags { c with zero := true } rest
  | 0x2B :: rest => flags { c with plus := true } rest
  | 0x20 :: rest => flags { c with blank := true } rest
  | 0x23 :: rest => flags { c with alternate := true } rest
  | s => (c, s)

/-- A decimal number at the front. -/
def decimal (n : Nat) : Bytes → Nat × Bytes
  | b :: rest => if 0x30 ≤ b ∧ b ≤ 0x39 then decimal (n * 10 + (b.toNat - 0x30)) rest else (n, b :: rest)
  | [] => (n, [])

/-- Read a conversion up to its letter. -/
def conversion (s : Bytes) : Conversion × Bytes :=
  let (c, s) := flags {} s
  let (width, s) := decimal 0 s
  match s with
  | 0x2E :: rest =>
    let (precision, rest) := decimal 0 rest
    ({ c with width, precision := some precision }, rest)
  | s => ({ c with width }, s)

/-- A text in a field of the conversion's width. -/
def Conversion.pad (c : Conversion) (s : Bytes) : Bytes :=
  let fill := List.replicate (c.width - s.length) (32 : UInt8)
  if c.left then s ++ fill else fill ++ s

/-- A number by its sign and digits, in a field of the conversion's width. -/
def Conversion.number (c : Conversion) (sign digits : Bytes) : Bytes :=
  let digits := List.replicate (c.precision.getD 1 - digits.length) (0x30 : UInt8) ++ digits
  let missing := c.width - (sign.length + digits.length)
  if c.zero && !c.left && c.precision.isNone then
    sign ++ List.replicate missing (0x30 : UInt8) ++ digits
  else c.pad (sign ++ digits)

/-- The digits of a number in a base. -/
def digitsOf (base n : Nat) (upper : Bool) : Bytes :=
  let s := String.ofList (Nat.toDigits base n)
  Bytes.ofText (if upper then s.map Char.toUpper else s)

/-- The number that an argument writes; a quote gives the code of the character after it. -/
def argumentNumber (s : Bytes) : Int :=
  match s with
  | 0x27 :: b :: _ => b.toNat
  | 0x22 :: b :: _ => b.toNat
  | s => Sum.ofText (Utf8.decodeLossy s)

/-- What a conversion writes for an argument, and whether it ends all output. -/
def convert (c : Conversion) (letter : UInt8) (argument : Bytes) : Bytes × Bool :=
  let n := argumentNumber argument
  let sign : Bytes :=
    if n < 0 then [0x2D] else if c.plus then [0x2B] else if c.blank then [0x20] else []
  let unsigned := if n < 0 then (0x10000000000000000 + n).toNat else n.toNat
  match Char.ofNat letter.toNat with
  | 's' => (c.pad (argument.take (c.precision.getD argument.length)), false)
  | 'b' =>
    let (text, stopped) := escapes (argument.length + 1) [] argument
    (c.pad (text.take (c.precision.getD text.length)), stopped)
  | 'c' => (c.pad (argument.take 1), false)
  | 'd' | 'i' => (c.number sign (digitsOf 10 n.natAbs false), false)
  | 'u' => (c.number [] (digitsOf 10 unsigned false), false)
  | 'o' => (c.number (if c.alternate then [0x30] else []) (digitsOf 8 unsigned false), false)
  | 'x' =>
    (c.number (if c.alternate then [0x30, 0x78] else []) (digitsOf 16 unsigned false), false)
  | 'X' =>
    (c.number (if c.alternate then [0x30, 0x58] else []) (digitsOf 16 unsigned true), false)
  | _ => (argument, false)

/-- Whether a conversion asks for a number. -/
def isNumeric (letter : UInt8) : Bool := (Bytes.ofText "diuoxX").contains letter

/-- Why an argument is not the number that a conversion asks for. -/
def fault? (argument : Bytes) : Option String :=
  match argument with
  | 0x27 :: _ => none
  | 0x22 :: _ => none
  | s =>
    let text := Utf8.decodeLossy s
    let digits := (Sum.skip text.toList).dropWhile fun c => c == '-' || c == '+'
    let (_, rest) := Sum.number digits
    if !digits.head?.any Char.isDigit then some (text ++ ": expected numeric value")
    else if !rest.isEmpty then some (text ++ ": not completely converted")
    else none

/-- What uses of a format have made so far. -/
structure Progress where
  /-- What has been written, last byte first. -/
  done : Bytes := []
  left : List Bytes
  /-- Whether all output has ended. -/
  stopped : Bool := false
  /-- What is wrong with arguments, last first. -/
  faults : List String := []

/-- The progress after writing some bytes. -/
def Progress.write (p : Progress) (s : Bytes) : Progress := { p with done := s.reverse ++ p.done }

/-- The progress after a conversion has used an argument. -/
def Progress.use (p : Progress) (c : Conversion) (letter : UInt8) : Progress :=
  let (written, stopped) := convert c letter (p.left.headD [])
  let fault := if isNumeric letter then p.left.head?.bind fault? else none
  { p.write written with left := p.left.drop 1, stopped, faults := fault.toList ++ p.faults }

/-- A use of a format. -/
def once : Nat → Progress → Bytes → Progress
  | 0, p, _ => { p with stopped := true }
  | fuel + 1, p, s =>
    if p.stopped then p
    else match s with
    | [] => p
    | 0x25 :: 0x25 :: rest => once fuel (p.write [0x25]) rest
    | 0x25 :: rest =>
      match conversion rest with
      | (_, []) => { p with stopped := true }
      | (c, letter :: rest) => once fuel (p.use c letter) rest
    | 92 :: 0x63 :: _ => { p with stopped := true }
    | 92 :: rest =>
      let (e, rest) := escape rest
      once fuel (p.write e) rest
    | b :: rest => once fuel (p.write [b]) rest

/-- Uses of a format, again while it takes arguments and some are left. -/
def uses (form : Bytes) : Nat → Progress → Progress
  | 0, p => p
  | fuel + 1, p =>
    let after := once (form.length + 1) p form
    if after.stopped || after.left.isEmpty || after.left.length == p.left.length then after
    else uses form fuel after

/-- What `printf` writes, and what is wrong with its arguments. -/
def printf (form : Bytes) (arguments : List Bytes) : Bytes × List String :=
  let p := uses form (arguments.length + 1) { left := arguments }
  (p.done.reverse, p.faults.reverse)

end Interpose.Shell.Format
