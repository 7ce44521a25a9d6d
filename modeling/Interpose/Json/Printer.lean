import Interpose.Json.Value

/-!
# Writing JSON

Two layouts of one value: `compact` without any blank, and `pretty` with one item or member per
line, indented by two spaces a level. Both escape the quotation mark, the backslash and the
characters below U+0020, and leave every other character as it is; so no line feed occurs inside
a compact text.
-/

namespace Interpose.Json

/-- A hexadecimal digit in lower case. -/
def hexChar (n : Nat) : Char :=
  if n < 10 then Char.ofNat (0x30 + n) else Char.ofNat (0x61 + (n - 10))

/-- A character as it stands inside a string literal. -/
def escapeChar (c : Char) : List Char :=
  match c with
  | '"' => ['\\', '"']
  | '\\' => ['\\', '\\']
  | '\x08' => ['\\', 'b']
  | '\x0c' => ['\\', 'f']
  | '\n' => ['\\', 'n']
  | '\r' => ['\\', 'r']
  | '\t' => ['\\', 't']
  | c =>
    if c.toNat < 0x20 then ['\\', 'u', '0', '0', hexChar (c.toNat / 16), hexChar (c.toNat % 16)]
    else [c]

/-- A string literal. One that spells no text is written as half a surrogate pair. -/
def quote : Option String → List Char
  | some s => '"' :: s.toList.flatMap escapeChar ++ ['"']
  | none => "\"\\ud800\"".toList

/-- A number literal. -/
def numeral : Numeral → List Char
  | .whole negative n => (if negative then ['-'] else []) ++ Nat.toDigits 10 n
  | .scaled negative m e =>
    (if negative then ['-'] else []) ++ Nat.toDigits 10 m ++ 'e' :: (toString e).toList

mutual

/-- A value without blanks. -/
def compactChars : Json → List Char
  | .null => "null".toList
  | .bool b => (if b then "true" else "false").toList
  | .number n => numeral n
  | .string s => quote s
  | .array items => '[' :: compactItems true items
  | .object members => '{' :: compactMembers true members

/-- The items of an array and its end. -/
def compactItems : Bool → List Json → List Char
  | _, [] => [']']
  | first, v :: rest => (if first then [] else [',']) ++ compactChars v ++ compactItems false rest

/-- The members of an object and its end. -/
def compactMembers : Bool → List (Option String × Json) → List Char
  | _, [] => ['}']
  | first, (name, v) :: rest =>
    (if first then [] else [',']) ++ quote name ++ ':' :: compactChars v ++
      compactMembers false rest

end

/-- A line feed and the indentation of a level. -/
def newLine (level : Nat) : List Char := '\n' :: List.replicate (2 * level) ' '

mutual

/-- A value at a level of nesting, one item or member per line. -/
def prettyChars : Nat → Json → List Char
  | level, .array (v :: rest) => '[' :: prettyItems level true (v :: rest)
  | level, .object (m :: rest) => '{' :: prettyMembers level true (m :: rest)
  | _, .null => "null".toList
  | _, .bool b => (if b then "true" else "false").toList
  | _, .number n => numeral n
  | _, .string s => quote s
  | _, .array [] => ['[', ']']
  | _, .object [] => ['{', '}']

/-- The items of an array at a level and its end. -/
def prettyItems : Nat → Bool → List Json → List Char
  | level, _, [] => newLine level ++ [']']
  | level, first, v :: rest =>
    (if first then [] else [',']) ++ newLine (level + 1) ++ prettyChars (level + 1) v ++
      prettyItems level false rest

/-- The members of an object at a level and its end. -/
def prettyMembers : Nat → Bool → List (Option String × Json) → List Char
  | level, _, [] => newLine level ++ ['}']
  | level, first, (name, v) :: rest =>
    (if first then [] else [',']) ++ newLine (level + 1) ++ quote name ++ ':' :: ' ' ::
      prettyChars (level + 1) v ++ prettyMembers level false rest

end

/-- The text of a value without blanks. -/
def compact (v : Json) : String := String.ofList (compactChars v)

/-- The text of a value with one item or member per line. -/
def pretty (v : Json) : String := String.ofList (prettyChars 0 v)

end Interpose.Json
