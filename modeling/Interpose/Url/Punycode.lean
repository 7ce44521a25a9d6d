/-!
# Punycode

The ASCII form of a label: its ASCII characters, a hyphen, and the insertions of the other
characters as numbers of varying length in base 36. `encode?` and `decode?` refuse labels beyond
the lengths that anyone needs, so that no input costs more than it should.
-/

namespace Interpose.Punycode

/-- The largest digit plus one. -/
def base : Nat := 36
/-- The least threshold of a digit. -/
def tMin : Nat := 1
/-- The greatest threshold of a digit. -/
def tMax : Nat := 26
/-- How far the bias follows the deltas. -/
def skew : Nat := 38
/-- How much the first delta counts. -/
def damp : Nat := 700
/-- The bias at the start. -/
def initialBias : Nat := 72
/-- The first code point beyond ASCII. -/
def initialCode : Nat := 0x80
/-- The longest label that is decoded. -/
def decodeLimit : Nat := 2000
/-- The longest label that is encoded. -/
def encodeLimit : Nat := 1000
/-- Numbers stay below this bound. -/
def bound : Nat := 0x100000000

/-- Divide by 35 until the number is small, counting the digits that this saves. -/
def settle (delta k : Nat) : Nat × Nat :=
  if h : (base - tMin) * tMax / 2 < delta then
    have : delta / (base - tMin) < delta :=
      Nat.div_lt_self (by simp [base, tMin, tMax] at h; omega) (by simp [base, tMin])
    settle (delta / (base - tMin)) (k + base)
  else (delta, k)
termination_by delta

/-- The bias after an insertion. -/
def adapt (delta count : Nat) (first : Bool) : Nat :=
  let delta := if first then delta / damp else delta / 2
  let (delta, k) := settle (delta + delta / count) 0
  k + (base - tMin + 1) * delta / (delta + skew)

/-- The threshold of the digit at place `k`. -/
def threshold (k bias : Nat) : Nat := max tMin (min tMax (k - bias))

/-- The value of a digit. -/
def digitValue? (c : Char) : Option Nat :=
  if '0' ≤ c ∧ c ≤ '9' then some (c.toNat - 0x30 + 26)
  else if 'A' ≤ c ∧ c ≤ 'Z' then some (c.toNat - 0x41)
  else if 'a' ≤ c ∧ c ≤ 'z' then some (c.toNat - 0x61)
  else none

/-- The digit of a value below 36. -/
def digit (n : Nat) : Char := if n < 26 then Char.ofNat (0x61 + n) else Char.ofNat (0x30 + (n - 26))

/-! ## Decoding -/

/-- A decoder between digits: the characters so far, the code point and place of the next
insertion, where the number that is being read began to count, and its weight and place so far. -/
structure Decoder where
  chars : List Char
  code : Nat := initialCode
  place : Nat := 0
  start : Nat := 0
  bias : Nat := initialBias
  weight : Nat := 1
  k : Nat := base

/-- Whether a code point is a character. -/
def isScalar (n : Nat) : Bool := n < 0xD800 || (0xDFFF < n && n < 0x110000)

/-- Read a digit. The last digit of a number is below its threshold and inserts a character. -/
def Decoder.step (d : Decoder) (c : Char) : Option Decoder :=
  match digitValue? c with
  | none => none
  | some v =>
    let place := d.place + v * d.weight
    let t := threshold d.k d.bias
    if bound ≤ place then none
    else if v < t then
      let count := d.chars.length + 1
      let code := d.code + place / count
      let spot := place % count
      if isScalar code then
        some {
          chars := d.chars.take spot ++ Char.ofNat code :: d.chars.drop spot
          code := code
          place := spot + 1
          start := spot + 1
          bias := adapt (place - d.start) count (d.start == 0) }
      else none
    else
      let weight := d.weight * (base - t)
      if bound ≤ weight then none else some { d with place, weight, k := d.k + base }

/-- Read digits to the end. A number must not be left unfinished. -/
def Decoder.run (d : Decoder) : List Char → Option (List Char)
  | [] => if d.k = base then some d.chars else none
  | c :: rest =>
    match d.step c with
    | none => none
    | some d' => d'.run rest

/-- The ASCII characters of an encoded label and its digits: the last hyphen stands between. -/
def parts (s : List Char) : List Char × List Char :=
  match s.reverse.span (· != '-') with
  | (_, []) => ([], s)
  | (_, [_]) => ([], s)
  | (digits, _ :: ascii) => (ascii.reverse, digits.reverse)

/-- The label of an encoded one. -/
def decode? (s : List Char) : Option (List Char) :=
  if decodeLimit < s.length then none
  else
    let (ascii, digits) := parts s
    Decoder.run { chars := ascii } digits

/-! ## Encoding -/

/-- The digits of a number. -/
def digits (n k bias : Nat) : List Char :=
  let t := threshold k bias
  if h : n < t then [digit n]
  else
    have : (n - t) / (base - t) < n := by
      have h1 : 1 ≤ t := by simp only [t, threshold, tMin, tMax]; omega
      have h2 : t ≤ 26 := by simp only [t, threshold, tMin, tMax]; omega
      have h3 : (n - t) / (base - t) ≤ n - t := Nat.div_le_self _ _
      omega
    digit (t + (n - t) % (base - t)) :: digits ((n - t) / (base - t)) (k + base) bias
termination_by n

/-- An encoder between characters: the digits so far, last first, the number that is being
counted, and how many characters are written. -/
structure Encoder where
  out : List Char
  delta : Nat := 0
  bias : Nat := initialBias
  written : Nat

/-- Pass a character of the label on the round of code point `code`. -/
def Encoder.pass (ascii code : Nat) (e : Encoder) (c : Char) : Encoder :=
  if c.toNat < code then { e with delta := e.delta + 1 }
  else if c.toNat = code then
    { out := (digits e.delta base e.bias).reverse ++ e.out
      delta := 0
      bias := adapt e.delta (e.written + 1) (e.written == ascii)
      written := e.written + 1 }
  else e

/-- Run the rounds of the given code points, in ascending order, from code point `from_`. -/
def Encoder.rounds (label : List Char) (ascii : Nat) (e : Encoder) (from_ : Nat) :
    List Nat → Encoder
  | [] => e
  | code :: rest =>
    let e' : Encoder := { e with delta := e.delta + (code - from_) * (e.written + 1) }
    let e'' := label.foldl (Encoder.pass ascii code) e'
    Encoder.rounds label ascii { e'' with delta := e''.delta + 1 } (code + 1) rest

/-- Drop repetitions from an ascending list. -/
def distinct : List Nat → List Nat
  | [] => []
  | n :: rest => if rest.head? == some n then distinct rest else n :: distinct rest

/-- The ASCII form of a label. -/
def encode? (label : List Char) : Option (List Char) :=
  if encodeLimit < label.length then none
  else
    let ascii := label.filter (·.toNat < initialCode)
    let codes := distinct <|
      ((label.filter (initialCode ≤ ·.toNat)).map Char.toNat).mergeSort (fun a b => a ≤ b)
    let out := if ascii.isEmpty then [] else '-' :: ascii.reverse
    let e := Encoder.rounds label ascii.length { out, written := ascii.length } initialCode codes
    some e.out.reverse

end Interpose.Punycode
