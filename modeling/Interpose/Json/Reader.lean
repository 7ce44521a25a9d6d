import Interpose.Json.Value
import Interpose.Text.Utf16

/-!
# Reading JSON

The reader is a machine that takes one byte at a time: a *mode* says what may come next, and a
stack of *frames* holds the containers that are open. So nesting costs no recursion, and a text is
read in one pass however deep it nests.

`Json.read?` answers the value of a text that is one JSON value with blanks around it. The text
need not be UTF-8 as a whole: a string literal that spells no text is kept as such, see
`Json.string`.
-/

namespace Interpose.Json

/-! ## String literals -/

/-- A piece of a string literal: a byte that stands for itself, or a UTF-16 unit written as an
escape. -/
inductive Piece
  | byte (b : UInt8)
  | unit (u : Nat)
  deriving DecidableEq

/-- The UTF-8 bytes of a literal's pieces after the bytes `done` (last first). Two halves of a
surrogate pair side by side are one character; a half that stands alone spells nothing. -/
def spell (done : Bytes) : List Piece → Option Bytes
  | [] => some done.reverse
  | [.unit u] =>
    if Utf16.isHigh u || Utf16.isLow u then none
    else some ((String.utf8EncodeChar (Char.ofNat u)).reverse ++ done).reverse
  | .byte b :: rest => spell (b :: done) rest
  | .unit u :: .byte b :: rest =>
    if Utf16.isHigh u || Utf16.isLow u then none
    else spell ((String.utf8EncodeChar (Char.ofNat u)).reverse ++ done) (.byte b :: rest)
  | .unit u :: .unit v :: rest =>
    if Utf16.isHigh u then
      if Utf16.isLow v then
        spell ((String.utf8EncodeChar (Utf16.pair u v)).reverse ++ done) rest
      else none
    else if Utf16.isLow u then none
    else spell ((String.utf8EncodeChar (Char.ofNat u)).reverse ++ done) (.unit v :: rest)

/-- The text of a literal, from its pieces last first. -/
def literalText (pieces : List Piece) : Option String :=
  (spell [] pieces.reverse).bind Utf8.decode?

/-- Where a string literal stands: between pieces, after a backslash, or inside the four hex
digits of an escape. -/
inductive InString
  | plain
  | escape
  | hex (left : Nat) (acc : Nat)
  deriving DecidableEq

/-- The value of a hexadecimal digit. -/
def hexDigit? (b : UInt8) : Option Nat :=
  if 0x30 ≤ b ∧ b ≤ 0x39 then some (b.toNat - 0x30)
  else if 0x41 ≤ b ∧ b ≤ 0x46 then some (b.toNat - 0x41 + 10)
  else if 0x61 ≤ b ∧ b ≤ 0x66 then some (b.toNat - 0x61 + 10)
  else none

/-- The byte that a one-letter escape stands for. -/
def escaped? (b : UInt8) : Option UInt8 :=
  match Char.ofNat b.toNat with
  | '"' => some 0x22
  | '\\' => some 0x5C
  | '/' => some 0x2F
  | 'b' => some 0x08
  | 'f' => some 0x0C
  | 'n' => some 0x0A
  | 'r' => some 0x0D
  | 't' => some 0x09
  | _ => none

/-! ## Number literals -/

/-- Where a number literal stands. -/
inductive InNumber
  | sign
  | zero
  | whole
  | point
  | fraction
  | mark
  | exponentSign
  | exponent
  deriving DecidableEq

/-- A number literal so far. -/
structure Figures where
  place : InNumber
  negative : Bool := false
  mantissa : Nat := 0
  fractionDigits : Nat := 0
  exponentNegative : Bool := false
  exponent : Nat := 0

/-- The next state of a number literal, if the byte continues it. -/
def Figures.step? (f : Figures) (b : UInt8) : Option Figures :=
  let digit := if 0x30 ≤ b ∧ b ≤ 0x39 then some (b.toNat - 0x30) else none
  let isMark := b == 0x65 || b == 0x45
  match f.place, digit with
  | .sign, some 0 => some { f with place := .zero }
  | .sign, some d => some { f with place := .whole, mantissa := d }
  | .whole, some d => some { f with mantissa := f.mantissa * 10 + d }
  | .point, some d | .fraction, some d =>
    some { f with
      place := .fraction, mantissa := f.mantissa * 10 + d, fractionDigits := f.fractionDigits + 1 }
  | .mark, some d | .exponentSign, some d | .exponent, some d =>
    some { f with place := .exponent, exponent := f.exponent * 10 + d }
  | .zero, none | .whole, none =>
    if b == 0x2E then some { f with place := .point }
    else if isMark then some { f with place := .mark }
    else none
  | .fraction, none => if isMark then some { f with place := .mark } else none
  | .mark, none =>
    if b == 0x2B then some { f with place := .exponentSign }
    else if b == 0x2D then some { f with place := .exponentSign, exponentNegative := true }
    else none
  | _, _ => none

/-- The number of a literal that may end where it stands. -/
def Figures.finish? (f : Figures) : Option Numeral :=
  let exponent : Int := if f.exponentNegative then -f.exponent else f.exponent
  match f.place with
  | .zero | .whole =>
    if f.negative && f.mantissa == 0 then some (.scaled true 0 0)
    else some (.whole f.negative f.mantissa)
  | .fraction | .exponent => some (.scaled f.negative f.mantissa (exponent - f.fractionDigits))
  | _ => none

/-! ## The machine -/

/-- An open container: what it holds so far, last first. -/
inductive Frame
  | array (done : List Json)
  | object (done : List (Option String × Json)) (name : Option String)

/-- What may come next. -/
inductive Mode
  /-- A value; when `closable`, the array may also end. -/
  | value (closable : Bool)
  /-- A member's name; when `closable`, the object may also end. -/
  | name (done : List (Option String × Json)) (closable : Bool)
  /-- The colon after a member's name. -/
  | colon (done : List (Option String × Json)) (name : Option String)
  /-- A comma or the end of the innermost container. -/
  | next
  /-- Inside a string literal: a member's name when `owner` holds the members before it. -/
  | string (owner : Option (List (Option String × Json))) (at_ : InString) (pieces : List Piece)
  /-- Inside a number literal. -/
  | number (f : Figures)
  /-- Inside a word, with the letters still to come. -/
  | word (rest : Bytes) (value : Json)
  /-- The value is complete. -/
  | done (value : Json)
  /-- No JSON text starts like this. -/
  | failed

/-- The reader between two bytes. -/
structure Reader where
  mode : Mode := .value false
  stack : List Frame := []

/-- A reader that refuses the text. -/
def Reader.fail : Reader := ⟨.failed, []⟩

/-- A value has ended: it goes into the innermost container. -/
def Reader.complete (stack : List Frame) (v : Json) : Reader :=
  match stack with
  | [] => ⟨.done v, []⟩
  | .array done :: rest => ⟨.next, .array (v :: done) :: rest⟩
  | .object done name :: rest => ⟨.next, .object ((name, v) :: done) none :: rest⟩

/-- The blanks of JSON. -/
def isBlank (b : UInt8) : Bool := b == 0x20 || b == 0x0A || b == 0x0D || b == 0x09

/-- Read a byte where a value may start. -/
def Reader.start (stack : List Frame) (closable : Bool) (b : UInt8) : Reader :=
  if isBlank b then ⟨.value closable, stack⟩
  else match Char.ofNat b.toNat with
  | '"' => ⟨.string none .plain [], stack⟩
  | '[' => ⟨.value true, .array [] :: stack⟩
  | '{' => ⟨.name [] true, stack⟩
  | '-' => ⟨.number ⟨.sign, true, 0, 0, false, 0⟩, stack⟩
  | 't' => ⟨.word [0x72, 0x75, 0x65] (.bool true), stack⟩
  | 'f' => ⟨.word [0x61, 0x6C, 0x73, 0x65] (.bool false), stack⟩
  | 'n' => ⟨.word [0x75, 0x6C, 0x6C] .null, stack⟩
  | ']' =>
    match closable, stack with
    | true, .array done :: rest => .complete rest (.array done.reverse)
    | _, _ => .fail
  | _ =>
    match Figures.step? ⟨.sign, false, 0, 0, false, 0⟩ b with
    | some f => ⟨.number f, stack⟩
    | none => .fail

/-- Read a byte between a value and the end of its container. -/
def Reader.between (stack : List Frame) (b : UInt8) : Reader :=
  if isBlank b then ⟨.next, stack⟩
  else match Char.ofNat b.toNat, stack with
  | ',', .array done :: rest => ⟨.value false, .array done :: rest⟩
  | ']', .array done :: rest => .complete rest (.array done.reverse)
  | ',', .object done _ :: rest => ⟨.name done false, rest⟩
  | '}', .object done _ :: rest => .complete rest (.object done.reverse)
  | _, _ => .fail

/-- Read a byte after a complete value, which may also have ended just before it. -/
def Reader.after (r : Reader) (b : UInt8) : Reader :=
  match r.mode with
  | .next => .between r.stack b
  | .done v => if isBlank b then ⟨.done v, []⟩ else .fail
  | _ => .fail

/-- Read a byte of a string literal. -/
def Reader.inString (stack : List Frame) (owner : Option (List (Option String × Json)))
    (pieces : List Piece) (place : InString) (b : UInt8) : Reader :=
  match place with
  | .plain =>
    if b == 0x22 then
      match owner with
      | none => .complete stack (.string (literalText pieces))
      | some done => ⟨.colon done (literalText pieces), stack⟩
    else if b == 0x5C then ⟨.string owner .escape pieces, stack⟩
    else if b < 0x20 then .fail
    else ⟨.string owner .plain (.byte b :: pieces), stack⟩
  | .escape =>
    if b == 0x75 then ⟨.string owner (.hex 4 0) pieces, stack⟩
    else match escaped? b with
    | some e => ⟨.string owner .plain (.byte e :: pieces), stack⟩
    | none => .fail
  | .hex left acc =>
    match hexDigit? b with
    | none => .fail
    | some d =>
      if left ≤ 1 then ⟨.string owner .plain (.unit (acc * 16 + d) :: pieces), stack⟩
      else ⟨.string owner (.hex (left - 1) (acc * 16 + d)) pieces, stack⟩

/-- Read a byte. -/
def Reader.step (r : Reader) (b : UInt8) : Reader :=
  match r.mode with
  | .value closable => .start r.stack closable b
  | .name done closable =>
    if isBlank b then r
    else if b == 0x22 then ⟨.string (some done) .plain [], r.stack⟩
    else if b == 0x7D && closable then .complete r.stack (.object [])
    else .fail
  | .colon done name =>
    if isBlank b then r
    else if b == 0x3A then ⟨.value false, .object done name :: r.stack⟩
    else .fail
  | .next => .between r.stack b
  | .string owner place pieces => .inString r.stack owner pieces place b
  | .number f =>
    match f.step? b with
    | some f' => ⟨.number f', r.stack⟩
    | none =>
      match f.finish? with
      | some n => (Reader.complete r.stack (.number n)).after b
      | none => .fail
  | .word rest v =>
    match rest with
    | [] => .fail
    | c :: cs =>
      if b == c then
        match cs with
        | [] => .complete r.stack v
        | _ :: _ => ⟨.word cs v, r.stack⟩
      else .fail
  | .done _ => r.after b
  | .failed => r

/-- The value at the end of input. -/
def Reader.finish (r : Reader) : Option Json :=
  match r.mode, r.stack with
  | .done v, _ => some v
  | .number f, [] => f.finish?.map .number
  | _, _ => none

/-- The value of a JSON text. -/
def read? (s : Bytes) : Option Json := (s.foldl Reader.step {}).finish

end Interpose.Json
