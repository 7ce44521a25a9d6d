import Interpose.Toml.Value

/-!
# TOML string literals

A literal has one of four forms: in double quotes with escapes or in single quotes without, on one
line or between triple quotes over several. It is read in two passes. The first finds its end: it
looks at quotes, and at backslashes only to step over what they escape. The second spells out the
text, a character at a time, by a machine whose state is a `Place`.

Between triple quotes a line break straight after the opening is dropped, CR LF counts as LF, and
up to two quotes may stand directly before the closing ones.
-/

namespace Interpose.Toml

/-- A reader takes a value off the front of a text and hands back the rest. -/
abbrev Step (α : Type) := List Char → Option (α × List Char)

/-- A blank within a line. -/
def isBlank (c : Char) : Bool := c == ' ' || c == '\t'

/-- A character that may stand in a comment or for itself in a literal: all but control
characters, of which the tab is allowed. -/
def isPlain (c : Char) : Bool := c == '\t' || (0x20 ≤ c.toNat && c.toNat != 0x7F)

/-- Take a line break off the front. -/
def lineBreak? : List Char → Option (List Char)
  | '\n' :: rest => some rest
  | '\r' :: '\n' :: rest => some rest
  | _ => none

/-- The value of a digit in a base up to sixteen. -/
def digit? (base : Nat) (c : Char) : Option Nat :=
  let value :=
    if c.isDigit then c.toNat - 0x30
    else if 'a' ≤ c ∧ c ≤ 'f' then c.toNat - 0x61 + 10
    else if 'A' ≤ c ∧ c ≤ 'F' then c.toNat - 0x41 + 10
    else base
  if value < base then some value else none

/-- The form of a literal. -/
structure Form where
  /-- Double quotes, with escapes. -/
  escapes : Bool
  /-- Triple quotes. -/
  lines : Bool
  deriving DecidableEq, Repr

/-- The quote of a form. -/
def Form.quote (f : Form) : Char := if f.escapes then '"' else '\''

/-! ## The end of a literal -/

/-- The content up to a closing quote, and what follows it; `done` is read, last first. -/
def upToQuote (f : Form) (done : List Char) : Step (List Char)
  | [] => none
  | c :: rest =>
    if c == f.quote then some (done.reverse, rest)
    else if f.escapes && c == '\\' then
      match rest with
      | d :: rest => upToQuote f (d :: c :: done) rest
      | [] => none
    else upToQuote f (c :: done) rest

/-- The quotes that stand before closing ones, two at most. -/
def surplus (q : Char) (done : List Char) : List Char → List Char × List Char
  | a :: b :: rest =>
    if a == q && b == q then ((b :: a :: done).reverse, rest)
    else if a == q then ((a :: done).reverse, b :: rest)
    else (done.reverse, a :: b :: rest)
  | [a] => if a == q then ((a :: done).reverse, []) else (done.reverse, [a])
  | [] => (done.reverse, [])

/-- The content up to three closing quotes, and what follows them; `done` is read, last first. -/
def upToQuotes (f : Form) (done : List Char) : Step (List Char)
  | a :: b :: c :: rest =>
    if a == f.quote && b == f.quote && c == f.quote then some (surplus f.quote done rest)
    else if f.escapes && a == '\\' then upToQuotes f (b :: a :: done) (c :: rest)
    else upToQuotes f (a :: done) (b :: c :: rest)
  | _ => none

/-! ## The text of a literal -/

/-- Where the second pass stands. -/
inductive Place
  /-- Between characters. -/
  | plain
  /-- After a CR, which an LF must follow. -/
  | carriage
  /-- After a backslash. -/
  | escape
  /-- Inside the hexadecimal digits of an escape. -/
  | digits (left : Nat) (value : Nat)
  /-- In blanks between a backslash and the line break it hides. -/
  | gap
  /-- In a CR between a backslash and the line break it hides. -/
  | gapCarriage
  /-- In the blanks and line breaks after a hidden line break. -/
  | margin
  /-- In a CR after a hidden line break. -/
  | marginCarriage
  deriving DecidableEq, Repr

/-- The character that a one-letter escape stands for. -/
def escaped? : Char → Option Char
  | '"' => some '"'
  | '\\' => some '\\'
  | 'b' => some '\x08'
  | 't' => some '\t'
  | 'n' => some '\n'
  | 'f' => some '\x0C'
  | 'r' => some '\r'
  | _ => none

/-- Read a character that stands for itself or starts an escape. -/
def Form.plain (f : Form) (c : Char) : Option (Place × Option Char) :=
  if f.escapes && c == '\\' then some (.escape, none)
  else if f.lines && c == '\n' then some (.plain, some c)
  else if f.lines && c == '\r' then some (.carriage, none)
  else if isPlain c then some (.plain, some c)
  else none

/-- Read a character between a backslash and the line break it hides. -/
def Form.gap (f : Form) (c : Char) : Option (Place × Option Char) :=
  if !f.lines then none
  else if isBlank c then some (.gap, none)
  else if c == '\n' then some (.margin, none)
  else if c == '\r' then some (.gapCarriage, none)
  else none

/-- Read a character: the next place, and the character it completes. -/
def Form.step (f : Form) : Place → Char → Option (Place × Option Char)
  | .plain, c => f.plain c
  | .carriage, c => if c == '\n' then some (.plain, some c) else none
  | .escape, c =>
    match escaped? c with
    | some e => some (.plain, some e)
    | none =>
      if c == 'u' then some (.digits 4 0, none)
      else if c == 'U' then some (.digits 8 0, none)
      else f.gap c
  | .digits left value, c => do
    let value := value * 16 + (← digit? 16 c)
    if 1 < left then some (.digits (left - 1) value, none)
    else if value.isValidChar then some (.plain, some (Char.ofNat value))
    else none
  | .gap, c => f.gap c
  | .gapCarriage, c => if c == '\n' then some (.margin, none) else none
  | .margin, c =>
    if isBlank c || c == '\n' then some (.margin, none)
    else if c == '\r' then some (.marginCarriage, none)
    else f.plain c
  | .marginCarriage, c => if c == '\n' then some (.margin, none) else none

/-- The text that content spells from a place on; `done` is spelled, last first. -/
def Form.spell (f : Form) (place : Place) (done : List Char) : List Char → Option String
  | [] => if place == .plain || place == .margin then some (String.ofList done.reverse) else none
  | c :: rest =>
    match f.step place c with
    | none => none
    | some (place, some d) => f.spell place (d :: done) rest
    | some (place, none) => f.spell place done rest

/-! ## Reading a literal -/

/-- A literal on one line, after its opening quote. -/
def inlineLiteral? (escapes : Bool) : Step String := fun s => do
  let f : Form := ⟨escapes, false⟩
  let (content, rest) ← upToQuote f [] s
  return (← f.spell .plain [] content, rest)

/-- A literal over several lines, after its opening quotes. -/
def blockLiteral? (escapes : Bool) : Step String := fun s => do
  let f : Form := ⟨escapes, true⟩
  let (content, rest) ← upToQuotes f [] ((lineBreak? s).getD s)
  return (← f.spell .plain [] content, rest)

/-- A literal of any form. -/
def literal? : Step String
  | '"' :: '"' :: '"' :: rest => blockLiteral? true rest
  | '"' :: rest => inlineLiteral? true rest
  | '\'' :: '\'' :: '\'' :: rest => blockLiteral? false rest
  | '\'' :: rest => inlineLiteral? false rest
  | _ => none

end Interpose.Toml
