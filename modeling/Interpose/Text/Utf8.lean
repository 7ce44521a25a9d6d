import Interpose.Bytes

/-!
# UTF-8

Encoding is `Bytes.ofText`. Decoding is one machine that reads a byte at a time and knows how
many continuation bytes are still owed and in which range the next one must fall. It divides a
byte string into characters and *faults*: a fault is a longest run of bytes that starts like a
character and cannot go on, or a byte that starts none.

* `decode?` answers a text when there is no fault.
* `decodeLossy` puts U+FFFD in the place of each fault.
-/

namespace Interpose.Utf8

/-- A character that has begun: how many continuation bytes are owed, the range in which the next
one must fall, and the bits gathered so far. -/
structure Pending where
  owed : Nat
  low : UInt8
  high : UInt8
  bits : Nat
  deriving DecidableEq

/-- What the first byte of a character says: the whole of it, a beginning, or neither. -/
inductive Lead
  | whole (c : Char)
  | begins (p : Pending)
  | fault
  deriving DecidableEq

/-- Read a byte where a character may start. The second byte's range excludes overlong forms,
surrogates and values above U+10FFFF. -/
def lead (b : UInt8) : Lead :=
  if b < 0x80 then .whole (Char.ofNat b.toNat)
  else if b < 0xC2 then .fault
  else if b < 0xE0 then .begins ⟨1, 0x80, 0xBF, b.toNat - 0xC0⟩
  else if b < 0xF0 then
    .begins ⟨2, if b = 0xE0 then 0xA0 else 0x80, if b = 0xED then 0x9F else 0xBF, b.toNat - 0xE0⟩
  else if b < 0xF5 then
    .begins ⟨3, if b = 0xF0 then 0x90 else 0x80, if b = 0xF4 then 0x8F else 0xBF, b.toNat - 0xF0⟩
  else .fault

/-- The state between bytes: the character begun, if any, and the units read so far, last first;
`none` stands for a fault. -/
structure Scan where
  pending : Option Pending := none
  units : List (Option Char) := []

/-- Read a byte where a character may start. -/
def Scan.start (units : List (Option Char)) (b : UInt8) : Scan :=
  match lead b with
  | .whole c => ⟨none, some c :: units⟩
  | .begins p => ⟨some p, units⟩
  | .fault => ⟨none, none :: units⟩

/-- Read a byte. One that cannot continue the pending character ends it as a fault and is read
again as a start. -/
def Scan.step (s : Scan) (b : UInt8) : Scan :=
  match s.pending with
  | none => .start s.units b
  | some p =>
    if p.low ≤ b ∧ b ≤ p.high then
      let bits := p.bits * 64 + (b.toNat - 0x80)
      if p.owed ≤ 1 then ⟨none, some (Char.ofNat bits) :: s.units⟩
      else ⟨some ⟨p.owed - 1, 0x80, 0xBF, bits⟩, s.units⟩
    else .start (none :: s.units) b

/-- End of input: a pending character is a fault. -/
def Scan.finish (s : Scan) : List (Option Char) :=
  match s.pending with
  | none => s.units.reverse
  | some _ => (none :: s.units).reverse

/-- The characters and faults of a byte string, in order. -/
def units (s : Bytes) : List (Option Char) := (s.foldl Scan.step {}).finish

/-- The text of a byte string, when it is well formed. -/
def decode? (s : Bytes) : Option String :=
  let us := units s
  if us.all Option.isSome then some (String.ofList us.reduceOption) else none

/-- The text of a byte string, with U+FFFD for each fault. -/
def decodeLossy (s : Bytes) : String :=
  String.ofList ((units s).map (Option.getD · '\uFFFD'))

end Interpose.Utf8
