import Interpose.Bytes

/-!
# Bits of a byte string

A compressed stream is read bit by bit, each byte from its least significant bit up. A source holds
the bits of the byte that has been begun and the bytes after it.
-/

namespace Interpose

/-- Why a compressed stream cannot be read: it ends early, or it says something impossible. -/
inductive Damage
  | incomplete
  | corrupt
  deriving DecidableEq, Repr

/-- A byte string that is read bit by bit. -/
structure BitSource where
  /-- The bits of the byte begun, next first. -/
  begun : List Bool := []
  bytes : Bytes
  deriving Repr

namespace BitSource

/-- The bits of a byte, least significant first. -/
def bitsOf (b : UInt8) : List Bool :=
  (List.range 8).map fun i => b.toNat.testBit i

/-- How many bits are left. -/
def size (s : BitSource) : Nat := s.begun.length + 8 * s.bytes.length

/-- The next bit. -/
def bit? (s : BitSource) : Except Damage (Bool × BitSource) :=
  match s.begun, s.bytes with
  | b :: rest, _ => .ok (b, { s with begun := rest })
  | [], byte :: rest =>
    match bitsOf byte with
    | b :: bits => .ok (b, ⟨bits, rest⟩)
    | [] => .error .incomplete
  | [], [] => .error .incomplete

/-- A number of `n` bits, least significant first. -/
def number? : Nat → BitSource → Except Damage (Nat × BitSource)
  | 0, s => .ok (0, s)
  | n + 1, s => do
    let (b, s) ← s.bit?
    let (high, s) ← number? n s
    return (2 * high + (if b then 1 else 0), s)

/-- Skip to the next whole byte. -/
def align (s : BitSource) : BitSource := { s with begun := [] }

end BitSource

end Interpose
