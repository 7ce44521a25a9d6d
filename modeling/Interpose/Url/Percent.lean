import Interpose.Text.Utf8

/-!
# Percent encoding

A byte is written as `%` and two hexadecimal digits. Which characters have to be written so differs
between the parts of a URL; each part has its set here. Characters beyond ASCII are always encoded,
byte by byte of their UTF-8 form.

Decoding is lenient: a `%` that no two hexadecimal digits follow stands for itself.
-/

namespace Interpose.Percent

/-- The value of a hexadecimal digit. -/
def hexValue? (b : UInt8) : Option UInt8 :=
  if 0x30 ≤ b ∧ b ≤ 0x39 then some (b - 0x30)
  else if 0x41 ≤ b ∧ b ≤ 0x46 then some (b - 0x41 + 10)
  else if 0x61 ≤ b ∧ b ≤ 0x66 then some (b - 0x61 + 10)
  else none

/-- The bytes of an encoded text. -/
def decode : Bytes → Bytes
  | 0x25 :: a :: b :: rest =>
    match hexValue? a, hexValue? b with
    | some x, some y => (x * 16 + y) :: decode rest
    | _, _ => 0x25 :: decode (a :: b :: rest)
  | b :: rest => b :: decode rest
  | [] => []

/-- A hexadecimal digit in upper case. -/
def hexDigit (n : Nat) : Char :=
  if n < 10 then Char.ofNat (0x30 + n) else Char.ofNat (0x41 + (n - 10))

/-- A byte in encoded form. -/
def encodeByte (b : UInt8) : List Char := ['%', hexDigit (b.toNat / 16), hexDigit (b.toNat % 16)]

/-- A character, encoded when it is in the set or beyond ASCII. -/
def encodeChar (set : Char → Bool) (c : Char) : List Char :=
  if c.toNat ≥ 0x80 || set c then (String.utf8EncodeChar c).flatMap encodeByte else [c]

/-- A text with the characters of a set encoded. -/
def encode (set : Char → Bool) (text : List Char) : List Char := text.flatMap (encodeChar set)

/-! ## The sets -/

/-- Control characters, encoded in opaque hosts and opaque paths. -/
def inOpaque (c : Char) : Bool := c.toNat < 0x20 || c.toNat == 0x7F

/-- Encoded in the query of any URL. -/
def inQuery (c : Char) : Bool :=
  inOpaque c || c == ' ' || c == '"' || c == '#' || c == '<' || c == '>'

/-- Encoded in the query of a URL whose scheme is special. -/
def inSpecialQuery (c : Char) : Bool := inQuery c || c == '\''

/-- Encoded in a path. -/
def inPath (c : Char) : Bool :=
  inQuery c || c == '?' || c == '`' || c == '\x7b' || c == '\x7d'

end Interpose.Percent
