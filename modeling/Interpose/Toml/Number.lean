import Interpose.Toml.Literal
import Interpose.Json.Value
import Interpose.Time.Rfc3339

/-!
# TOML numbers, dates and times

Integers lie in the range of 64 bits with sign. Underscores may stand between two digits. A float
counts only by whether it is one, so its spelling is kept; a positive one too large for a
double-precision float is refused.

Four digits and a hyphen can only start a date, two digits and a colon only a time, so one look
ahead decides what a text that starts with a digit is.
-/

namespace Interpose.Toml

/-! ## Digits -/

/-- Digits with single underscores between them; `done` is read, last first. -/
def moreDigits (base : Nat) (done : List Nat) : Step (List Nat)
  | '_' :: c :: rest =>
    match digit? base c with
    | some d => moreDigits base (d :: done) rest
    | none => none
  | c :: rest =>
    match digit? base c with
    | some d => moreDigits base (d :: done) rest
    | none => some (done.reverse, c :: rest)
  | [] => some (done.reverse, [])

/-- Digits with single underscores between them, at least one. -/
def digits? (base : Nat) : Step (List Nat)
  | c :: rest => (digit? base c).bind fun d => moreDigits base [d] rest
  | [] => none

/-- The number that digits write. -/
def ofDigits (base : Nat) (digits : List Nat) : Nat := digits.foldl (fun n d => n * base + d) 0

/-- Decimal digits of a whole part: a zero stands alone. -/
def whole? : Step (List Nat)
  | '0' :: rest => some ([0], rest)
  | s => digits? 10 s

/-- A sign, whether it is a minus. -/
def sign : List Char → Bool × List Char
  | '+' :: rest => (false, rest)
  | '-' :: rest => (true, rest)
  | s => (false, s)

/-! ## Numbers -/

/-- An integer, if it is in range. -/
def integer? (n : Int) : Option Toml :=
  if -0x8000000000000000 ≤ n ∧ n < 0x8000000000000000 then some (.integer n) else none

/-- The characters of `s` that were read when `rest` is left. -/
def taken (s rest : List Char) : String := String.ofList (s.take (s.length - rest.length))

/-- The fraction of a float after its whole part: the digits and what follows. -/
def fraction? : Step (List Nat)
  | '.' :: rest => digits? 10 rest
  | s => some ([], s)

/-- The exponent of a float. -/
def exponent? : Step Int
  | c :: rest =>
    if c == 'e' || c == 'E' then do
      let (negative, rest) := sign rest
      let (digits, rest) ← digits? 10 rest
      let n : Int := ofDigits 10 digits
      return (if negative then -n else n, rest)
    else some (0, c :: rest)
  | [] => some (0, [])

/-- A decimal number: an integer, or a float when a fraction or an exponent follows. -/
def decimal? : Step Toml := fun s => do
  let (negative, r) := sign s
  let (whole, r) ← whole? r
  let (fraction, afterFraction) ← fraction? r
  let (exponent, rest) ← exponent? afterFraction
  if rest.length = r.length then
    let n : Int := ofDigits 10 whole
    return (← integer? (if negative then -n else n), rest)
  else if !negative && Json.exceedsDouble
      (.scaled false (ofDigits 10 (whole ++ fraction)) (exponent - fraction.length)) then none
  else some (.float (taken s rest), rest)

/-- A number: with the mark of a base, a word for no finite number, or decimal. -/
def number? : Step Toml := fun s =>
  let based (base : Nat) (r : List Char) : Option (Toml × List Char) := do
    let (digits, rest) ← digits? base r
    return (← integer? (ofDigits base digits), rest)
  match s, (sign s).2 with
  | '0' :: 'x' :: r, _ => based 16 r
  | '0' :: 'o' :: r, _ => based 8 r
  | '0' :: 'b' :: r, _ => based 2 r
  | _, 'i' :: 'n' :: 'f' :: rest | _, 'n' :: 'a' :: 'n' :: rest =>
    some (.float (taken s rest), rest)
  | _, _ => decimal? s

/-! ## Dates and times -/

/-- A number of two decimal digits. -/
def pair? : Step Nat
  | a :: b :: rest => do return ((← digit? 10 a) * 10 + (← digit? 10 b), rest)
  | _ => none

/-- Take a character off the front. -/
def mark? (c : Char) : List Char → Option (List Char)
  | d :: rest => if c == d then some rest else none
  | [] => none

/-- Skip a fraction of a second. -/
def skipFraction (s : List Char) : List Char :=
  match s with
  | '.' :: c :: rest => if c.isDigit then rest.dropWhile Char.isDigit else s
  | _ => s

/-- Read over a time of day. -/
def time? (s : List Char) : Option (List Char) := do
  let (hour, s) ← pair? s
  let (minute, s) ← pair? (← mark? ':' s)
  let (second, s) ← pair? (← mark? ':' s)
  if hour < 24 && minute < 60 && second ≤ 60 then some (skipFraction s) else none

/-- Read over an offset from UTC, which may be missing. -/
def offset? (s : List Char) : Option (List Char) :=
  match s with
  | 'Z' :: rest | 'z' :: rest => some rest
  | '+' :: rest | '-' :: rest => do
    let (hour, s) ← pair? rest
    let (minute, s) ← pair? (← mark? ':' s)
    if hour < 24 && minute < 60 then some s else none
  | _ => some s

/-- Read over a date. -/
def date? (s : List Char) : Option (List Char) := do
  let (century, s) ← pair? s
  let (year, s) ← pair? s
  let (month, s) ← pair? (← mark? '-' s)
  let (day, s) ← pair? (← mark? '-' s)
  let _ ← Instant.dayOf? (century * 100 + year : Nat) month day
  return s

/-- Whether a time of day must start here. -/
def startsTime (s : List Char) : Bool :=
  match pair? s with
  | some (_, ':' :: _) => true
  | _ => false

/-- Whether a date must start here. -/
def startsDate (s : List Char) : Bool :=
  match (pair? s).bind fun (_, s) => pair? s with
  | some (_, '-' :: _) => true
  | _ => false

/-- Read over the time that may follow a date. -/
def timeAfter? (s : List Char) : Option (List Char) :=
  match s with
  | c :: rest =>
    if (c == 'T' || c == 't' || c == ' ') && startsTime rest then (time? rest).bind offset?
    else some s
  | [] => some s

/-- A number, a date or a time. -/
def figure? : Step Toml := fun s =>
  if startsDate s then do
    let rest ← (date? s).bind timeAfter?
    return (.moment (taken s rest), rest)
  else if startsTime s then do
    let rest ← time? s
    return (.moment (taken s rest), rest)
  else number? s

end Interpose.Toml
