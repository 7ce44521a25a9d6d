/-!
# Tables over ranges of code points

A property of characters is written as a text of rows separated by blanks. A row is a code point in
hexadecimal, or two with a hyphen for a range, followed by what the property says of it. Rows stand
in ascending order, so a look-up halves the table.
-/

namespace Interpose.Unicode

/-- A row: a range of code points and what the table says of it. -/
structure RangeRow where
  first : Nat
  last : Nat
  content : List Char
  deriving Inhabited

/-- The rows of a table, in ascending order. -/
abbrev RangeTable := Array RangeRow

/-- The value of an upper-case hexadecimal digit. -/
def hexValue? (c : Char) : Option Nat :=
  if '0' ≤ c ∧ c ≤ '9' then some (c.toNat - 0x30)
  else if 'A' ≤ c ∧ c ≤ 'F' then some (c.toNat - 0x41 + 10)
  else none

/-- A leading hexadecimal number, added to the digits read so far, and what follows it. -/
def readHex (acc : Nat) : List Char → Nat × List Char
  | [] => (acc, [])
  | c :: rest =>
    match hexValue? c with
    | some d => readHex (acc * 16 + d) rest
    | none => (acc, c :: rest)

/-- The row that a text spells. -/
def RangeRow.ofChars (s : List Char) : RangeRow :=
  match readHex 0 s with
  | (first, '-' :: rest) =>
    let (last, content) := readHex 0 rest
    ⟨first, last, content⟩
  | (first, content) => ⟨first, first, content⟩

/-- The table that a text spells. -/
def RangeTable.ofText (text : String) : RangeTable :=
  ((text.toList.splitOnP fun c => c == ' ' || c == '\n').filter (!·.isEmpty)).toArray.map
    RangeRow.ofChars

/-- The row of a code point among the rows from `low` up to `high`. -/
def RangeTable.find? (t : RangeTable) (code low high : Nat) : Option RangeRow :=
  if low < high then
    let middle := (low + high) / 2
    match t[middle]? with
    | none => none
    | some row =>
      if code < row.first then t.find? code low middle
      else if row.last < code then t.find? code (middle + 1) high
      else some row
  else none
termination_by high - low

/-- The row of a character. -/
def RangeTable.row? (t : RangeTable) (c : Char) : Option RangeRow := t.find? c.toNat 0 t.size

/-- The code points that a row lists after its first character, with commas between. -/
def RangeRow.codes (row : RangeRow) : List Nat :=
  ((row.content.drop 1).splitOn ',').map fun digits => (readHex 0 digits).1

end Interpose.Unicode
