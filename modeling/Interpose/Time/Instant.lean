/-!
# Instants

A point in time as a date and a time of day in UTC. A second may hold more than a thousand million
nanoseconds: that is a leap second, which shares its place in the day with the second before it.

Dates are counted in days from the start of the year 0, through the 400 years after which the
calendar repeats.
-/

namespace Interpose

/-- A point in time. -/
structure Instant where
  /-- Days since the first of January of the year 0. -/
  day : Int
  /-- Seconds since midnight. -/
  second : Nat
  /-- Nanoseconds, of which a leap second has more than 999 999 999. -/
  nanos : Nat
  deriving DecidableEq, Repr

namespace Instant

/-- Whether a year has a 29th of February. -/
def isLeap (year : Int) : Bool := year % 4 = 0 && (year % 100 ≠ 0 || year % 400 = 0)

/-- The number of days of each month. -/
def monthLengths (year : Int) : List Nat :=
  [31, if isLeap year then 29 else 28, 31, 30, 31, 30, 31, 31, 30, 31, 30, 31]

/-- The days before the first of January of a year. -/
def daysBefore (year : Int) : Int :=
  let y := year - 1
  365 * year + (y / 4 - y / 100 + y / 400) + 1

/-- The day of a date, if there is such a date. -/
def dayOf? (year : Int) (month dayOfMonth : Nat) : Option Int :=
  match (monthLengths year)[month - 1]? with
  | none => none
  | some length =>
    if 1 ≤ month ∧ 1 ≤ dayOfMonth ∧ dayOfMonth ≤ length then
      let before : Nat := ((monthLengths year).take (month - 1)).foldl (· + ·) 0
      some (daysBefore year + before + (dayOfMonth - 1 : Nat))
    else none

/-- The month and day of the month of a day of the year, counting from month `month` on. -/
def monthDay (month : Nat) : List Nat → Nat → Nat × Nat
  | [], n => (month, n + 1)
  | length :: rest, n => if n < length then (month, n + 1) else monthDay (month + 1) rest (n - length)

/-- The year of a day. -/
def yearOf (day : Int) : Int :=
  let guess := day * 400 / 146097
  if day < daysBefore guess then guess - 1
  else if daysBefore (guess + 1) ≤ day then guess + 1
  else guess

/-- The year, month and day of the month of a day. -/
def dateOf (day : Int) : Int × Nat × Nat :=
  let year := yearOf day
  let (month, d) := monthDay 1 (monthLengths year) (day - daysBefore year).toNat
  (year, month, d)

/-- The instant so many seconds later, or earlier for a negative number. -/
def shift (i : Instant) (seconds : Int) : Instant :=
  let total := i.day * 86400 + i.second + seconds
  { i with day := total / 86400, second := (total % 86400).toNat }

/-- The first of January 1970. -/
def epochDay : Int := 719528

example : daysBefore 1970 = epochDay := by decide

/-- The instant so many seconds after the start of 1970. -/
def ofEpoch (seconds : Int) (nanos : Nat) : Instant := (⟨epochDay, 0, nanos⟩ : Instant).shift seconds

end Instant

end Interpose
