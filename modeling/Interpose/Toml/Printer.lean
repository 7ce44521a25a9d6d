import Interpose.Toml.Value

/-!
# Printing TOML

A string is written in the first of these forms that holds it without escapes: in double quotes,
in single quotes, in triple double quotes, in triple single quotes. When none does, it is written
in double quotes with escapes, triple ones if it holds a line break. A tab is always escaped in
double quotes and does not by itself rule a form out.

A document is a list of tables, each with a header and a line per key, and an empty line between
tables.
-/

namespace Interpose.Toml

/-- A value that can be printed. -/
inductive Setting
  | text (s : String)
  | flag (b : Bool)
  | count (n : Nat)
  | texts (ss : List String)
  deriving DecidableEq, Repr

/-! ## Strings -/

/-- The length of the longest run of a character. -/
def longestRun (c : Char) (run : Nat) : List Char → Nat
  | [] => run
  | d :: rest => if d == c then longestRun c (run + 1) rest else max run (longestRun c 0 rest)

/-- Whether a character is written as an escape in every form with escapes. -/
def needsEscape (c : Char) : Bool :=
  (c.toNat < 0x20 && c != '\t' && c != '\n') || c.toNat == 0x7F

/-- A hexadecimal digit in upper case. -/
def hexDigit (n : Nat) : Char := if n < 10 then Char.ofNat (0x30 + n) else Char.ofNat (0x41 + n - 10)

/-- The escape of a control character. -/
def escape (c : Char) : List Char :=
  match c with
  | '\x08' => ['\\', 'b']
  | '\t' => ['\\', 't']
  | '\n' => ['\\', 'n']
  | '\x0C' => ['\\', 'f']
  | '\r' => ['\\', 'r']
  | c => ['\\', 'u', '0', '0', hexDigit (c.toNat / 16), hexDigit (c.toNat % 16)]

/-- The content of a literal in double quotes. Between triple quotes a line break stands for
itself, and so do quotes, except each third of a run. -/
def escapeAll (lines : Bool) (quotes : Nat) : List Char → List Char
  | [] => []
  | c :: rest =>
    if c == '"' then
      if lines && quotes < 2 then c :: escapeAll lines (quotes + 1) rest
      else '\\' :: c :: escapeAll lines 0 rest
    else if c == '\\' then '\\' :: c :: escapeAll lines 0 rest
    else if (c == '\n' && !lines) || c == '\t' || needsEscape c then
      escape c ++ escapeAll lines 0 rest
    else c :: escapeAll lines 0 rest

/-- A string literal. -/
def quote (text : String) : String :=
  let s := text.toList
  let doubles := longestRun '"' 0 s
  let singles := longestRun '\'' 0 s
  let broken := s.contains '\n'
  let plain := !s.any needsEscape
  let slashed := s.contains '\\'
  let opening := if broken then ['\n'] else []
  let tripled := "\"\"\"".toList
  String.ofList <|
    if plain && !slashed && doubles == 0 && !broken then '"' :: escapeAll false 0 s ++ ['"']
    else if plain && singles == 0 && !broken then '\'' :: s ++ ['\'']
    else if plain && !slashed && doubles ≤ 2 then tripled ++ opening ++ escapeAll true 0 s ++ tripled
    else if plain && singles ≤ 2 then
      "'''".toList ++ opening ++ s ++ "'''".toList
    else if broken then tripled ++ opening ++ escapeAll true 0 s ++ tripled
    else '"' :: escapeAll false 0 s ++ ['"']

/-! ## Documents -/

/-- An array of strings: one item or none on one line, more of them one per line. -/
def printTexts : List String → String
  | [] => "[]"
  | [s] => "[" ++ quote s ++ "]"
  | ss => "[\n" ++ String.join (ss.map fun s => "    " ++ quote s ++ ",\n") ++ "]"

/-- A value. An integer must lie in the range of 64 bits with sign. -/
def printSetting? : Setting → Option String
  | .text s => some (quote s)
  | .flag b => some (if b then "true" else "false")
  | .count n => if n < 0x8000000000000000 then some (toString n) else none
  | .texts ss => some (printTexts ss)

/-- A table under a header. -/
def printTable? (name : String) (settings : List (String × Setting)) : Option String := do
  let lines ← settings.mapM fun (key, v) => do
    return key ++ " = " ++ (← printSetting? v) ++ "\n"
  return "[" ++ name ++ "]\n" ++ String.join lines

/-- A document, if every integer is in range. Names of tables and keys are bare keys. -/
def print? (tables : List (String × List (String × Setting))) : Option String := do
  let parts ← tables.mapM fun (name, settings) => printTable? name settings
  return "\n".intercalate parts

end Interpose.Toml
