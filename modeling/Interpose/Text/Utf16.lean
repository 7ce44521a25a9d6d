import Interpose.Text.Utf8

/-!
# UTF-16 texts with a byte-order mark

A source may arrive in UTF-16 with a mark in front. `normalize` turns such a source into UTF-8, so
that one text has one form whatever encoding it came in; everything else, a marked source that is
not well formed included, passes through unchanged.

`encode` is the other direction: the mark and the code units of a text.
-/

namespace Interpose.Utf16

/-- The order of the two bytes of a code unit. -/
inductive ByteOrder
  | bigEndian
  | littleEndian
  deriving DecidableEq, Repr

/-- The byte-order mark, U+FEFF in the given order. -/
def ByteOrder.mark : ByteOrder → Bytes
  | .bigEndian => [0xFE, 0xFF]
  | .littleEndian => [0xFF, 0xFE]

/-- The word for a byte order in a log line. -/
def ByteOrder.word : ByteOrder → String
  | .bigEndian => "BigEndian"
  | .littleEndian => "LittleEndian"

/-- The byte order that a leading mark announces. -/
def detect : Bytes → Option ByteOrder
  | a :: b :: _ =>
    if a = 0xFE ∧ b = 0xFF then some .bigEndian
    else if a = 0xFF ∧ b = 0xFE then some .littleEndian
    else none
  | _ => none

/-- The code unit of two bytes. -/
def unit (order : ByteOrder) (a b : UInt8) : Nat :=
  match order with
  | .bigEndian => a.toNat * 256 + b.toNat
  | .littleEndian => b.toNat * 256 + a.toNat

/-- The two bytes of a code unit. -/
def unitBytes (order : ByteOrder) (u : Nat) : Bytes :=
  match order with
  | .bigEndian => [UInt8.ofNat (u / 256), UInt8.ofNat (u % 256)]
  | .littleEndian => [UInt8.ofNat (u % 256), UInt8.ofNat (u / 256)]

/-- Whether a code unit is the first half of a surrogate pair. -/
def isHigh (u : Nat) : Bool := 0xD800 ≤ u && u < 0xDC00

/-- Whether a code unit is the second half of a surrogate pair. -/
def isLow (u : Nat) : Bool := 0xDC00 ≤ u && u < 0xE000

/-- The character of a surrogate pair. -/
def pair (h l : Nat) : Char := Char.ofNat (0x10000 + (h - 0xD800) * 0x400 + (l - 0xDC00))

/-- Read code units after the characters `done` (last first): a pair is one character, and an
unpaired surrogate or a lone last byte makes the whole text ill formed. -/
def decodeFrom (order : ByteOrder) (done : List Char) : Bytes → Option (List Char)
  | [] => some done.reverse
  | [_] => none
  | [a, b] =>
    let u := unit order a b
    if isHigh u || isLow u then none else some (Char.ofNat u :: done).reverse
  | [_, _, _] => none
  | a :: b :: c :: d :: rest =>
    let u := unit order a b
    let v := unit order c d
    if isHigh u then
      if isLow v then decodeFrom order (pair u v :: done) rest else none
    else if isLow u then none
    else decodeFrom order (Char.ofNat u :: done) (c :: d :: rest)

/-- The text of code units in the given order, when it is well formed. -/
def decode? (order : ByteOrder) (s : Bytes) : Option (List Char) := decodeFrom order [] s

/-- The code units of a character: one below U+10000, else a surrogate pair. -/
def charUnits (c : Char) : List Nat :=
  if c.toNat < 0x10000 then [c.toNat]
  else [0xD800 + (c.toNat - 0x10000) / 0x400, 0xDC00 + (c.toNat - 0x10000) % 0x400]

/-- A text in UTF-16 with its mark. -/
def encode (order : ByteOrder) (text : String) : Bytes :=
  order.mark ++ (text.toList.flatMap charUnits).flatMap (unitBytes order)

end Interpose.Utf16

namespace Interpose

/-- A source in UTF-8: a marked and well-formed UTF-16 text is re-encoded without its mark, any
other source is left as it is. -/
def normalize (source : Bytes) : Bytes :=
  match Utf16.detect source with
  | none => source
  | some order =>
    match Utf16.decode? order (source.drop 2) with
    | none => source
    | some text => text.flatMap String.utf8EncodeChar

end Interpose
