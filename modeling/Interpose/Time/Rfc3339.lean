import Interpose.Time.Instant
import Interpose.Text.Blank

/-!
# Instants as texts

Instants are written as date, `T`, time of day and offset; a fraction of a second has three, six or
nine digits, as many as it needs, and none if it is zero. A year beyond four digits has a sign.

Reading is more lenient: a blank may stand for the `T` and around the parts, numbers may be shorter,
a fraction may have any number of digits of which nine count, and the offset may be written without
colon or as `Z` or `UTC`. The result is in UTC.
-/

namespace Interpose.Instant

/-! ## Writing -/

/-- A number with at least so many digits. -/
def padded (width n : Nat) : String :=
  let digits := Nat.toDigits 10 n
  String.ofList (List.replicate (width - digits.length) '0' ++ digits)

/-- A year: four digits, or more with a sign. -/
def yearText (year : Int) : String :=
  if 0 ≤ year ∧ year ≤ 9999 then padded 4 year.toNat
  else (if year < 0 then "-" else "+") ++ padded 4 year.natAbs

/-- A date. -/
def dateText (i : Instant) : String :=
  let (year, month, day) := dateOf i.day
  yearText year ++ "-" ++ padded 2 month ++ "-" ++ padded 2 day

/-- A fraction of a second. -/
def fractionText (nanos : Nat) : String :=
  if nanos = 0 then ""
  else if nanos % 1000000 = 0 then "." ++ padded 3 (nanos / 1000000)
  else if nanos % 1000 = 0 then "." ++ padded 6 (nanos / 1000)
  else "." ++ padded 9 nanos

/-- Hours and minutes of the time of day. -/
def minuteText (i : Instant) : String :=
  padded 2 (i.second / 3600) ++ ":" ++ padded 2 (i.second / 60 % 60)

/-- The time of day. A leap second is the sixtieth of its minute. -/
def timeText (i : Instant) : String :=
  let leap := if i.nanos < 1000000000 then 0 else 1
  minuteText i ++ ":" ++ padded 2 (i.second % 60 + leap) ++ fractionText (i.nanos % 1000000000)

/-- An instant with the offset of UTC as given. -/
def text (i : Instant) (offset : String) : String := dateText i ++ "T" ++ timeText i ++ offset

/-! ## Reading -/

/-- Skip blanks. -/
def skipBlanks (s : List Char) : List Char := s.dropWhile Blank.isBlank

/-- A number of at most `width` digits, and what follows it. -/
def digits? (width : Nat) (s : List Char) : Option (Nat × List Char) :=
  let ds := (s.take width).takeWhile Char.isDigit
  if ds.isEmpty then none
  else some (ds.foldl (fun n c => n * 10 + (c.toNat - 0x30)) 0, s.drop ds.length)

/-- A number of at most two digits after blanks. -/
def pair? (s : List Char) : Option (Nat × List Char) := digits? 2 (skipBlanks s)

/-- A year: four digits at most, or any number of them after a sign. -/
def year? (s : List Char) : Option (Int × List Char) :=
  match skipBlanks s with
  | '-' :: rest => (digits? rest.length rest).map fun (n, r) => (-(n : Int), r)
  | '+' :: rest => (digits? rest.length rest).map fun (n, r) => ((n : Int), r)
  | s => (digits? 4 s).map fun (n, r) => ((n : Int), r)

/-- A separator after blanks. -/
def mark? (c : Char) (s : List Char) : Option (List Char) :=
  match skipBlanks s with
  | d :: rest => if d == c then some rest else none
  | [] => none

/-- A fraction of a second in nanoseconds; nine digits count. -/
def fraction? (s : List Char) : Option (Nat × List Char) :=
  match s with
  | '.' :: rest =>
    let ds := rest.takeWhile Char.isDigit
    if ds.isEmpty then none
    else
      let nine := (ds ++ List.replicate 9 '0').take 9
      some (nine.foldl (fun n c => n * 10 + (c.toNat - 0x30)) 0, rest.drop ds.length)
  | s => some (0, s)

/-- An offset in seconds, with two digits for the hours and two for the minutes. -/
def offset? (s : List Char) : Option (Int × List Char) :=
  match s with
  | 'Z' :: rest | 'z' :: rest => some (0, rest)
  | u :: t :: c :: rest =>
    if String.ofList [u.toUpper, t.toUpper, c.toUpper] = "UTC" then some (0, rest)
    else
      let sign : Option Int := if u == '+' then some 1
        else if u == '-' || u == '\u2212' then some (-1) else none
      match sign, t.isDigit && c.isDigit,
          rest.dropWhile (fun d => d == ':' || Blank.isBlank d) with
      | some sign, true, m :: n :: rest =>
        let hours := (t.toNat - 0x30) * 10 + (c.toNat - 0x30)
        let minutes := (m.toNat - 0x30) * 10 + (n.toNat - 0x30)
        if m.isDigit && n.isDigit && minutes < 60 && hours < 24 then
          some (sign * (hours * 3600 + minutes * 60 : Nat), rest)
        else none
      | _, _, _ => none
  | _ => none

/-- The years that an instant can lie in. -/
def inRange (i : Instant) : Bool :=
  decide (-262143 ≤ yearOf i.day ∧ yearOf i.day ≤ 262142)

/-- Read an instant. -/
def read? (s : String) : Option Instant := do
  let (year, r) ← year? s.toList
  let (month, r) ← pair? (← mark? '-' r)
  let (day, r) ← pair? (← mark? '-' r)
  let r ← match r with
    | c :: rest => if c == 't' || c == 'T' || c == ' ' then some rest else none
    | [] => none
  let (hour, r) ← pair? r
  let (minute, r) ← pair? (← mark? ':' r)
  let (second, r) ← pair? (← mark? ':' r)
  let (nanos, r) ← fraction? r
  let (offset, r) ← offset? (skipBlanks r)
  let d ← dayOf? year month day
  if hour < 24 && minute < 60 && second ≤ 60 && (skipBlanks r).isEmpty then
    let leap := if second = 60 then 1 else 0
    let i : Instant :=
      ⟨d, hour * 3600 + minute * 60 + (second - leap), nanos + leap * 1000000000⟩
    let utc := i.shift (-offset)
    if inRange i && inRange utc then some utc else none
  else none

end Interpose.Instant
