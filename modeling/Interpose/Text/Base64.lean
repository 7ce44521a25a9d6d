import Interpose.Bytes

/-!
# Base 64

The standard alphabet with padding. Encoding writes four digits for three bytes; decoding is strict
and accepts exactly what encoding writes: the padding must be there, nothing may stand between
digits, and the bits that the last digit does not need must be zero.
-/

namespace Interpose.Base64

/-- The digit of a value below 64. -/
def digit (n : Nat) : Char :=
  if n < 26 then Char.ofNat (0x41 + n)
  else if n < 52 then Char.ofNat (0x61 + (n - 26))
  else if n < 62 then Char.ofNat (0x30 + (n - 52))
  else if n = 62 then '+' else '/'

/-- The value of a digit. -/
def value? (c : Char) : Option Nat :=
  if 'A' ≤ c ∧ c ≤ 'Z' then some (c.toNat - 0x41)
  else if 'a' ≤ c ∧ c ≤ 'z' then some (c.toNat - 0x61 + 26)
  else if '0' ≤ c ∧ c ≤ '9' then some (c.toNat - 0x30 + 52)
  else if c = '+' then some 62
  else if c = '/' then some 63
  else none

/-- The digits of a byte string after the digits `done` (last first). -/
def encodeFrom (done : List Char) : Bytes → List Char
  | a :: b :: c :: rest =>
    let n := a.toNat * 65536 + b.toNat * 256 + c.toNat
    encodeFrom (digit (n % 64) :: digit (n / 64 % 64) :: digit (n / 4096 % 64) ::
      digit (n / 262144) :: done) rest
  | [a, b] =>
    let n := a.toNat * 1024 + b.toNat * 4
    ('=' :: digit (n % 64) :: digit (n / 64 % 64) :: digit (n / 4096) :: done).reverse
  | [a] =>
    let n := a.toNat * 16
    ('=' :: '=' :: digit (n % 64) :: digit (n / 64) :: done).reverse
  | [] => done.reverse

/-- A byte string in base 64. -/
def encode (s : Bytes) : String := String.ofList (encodeFrom [] s)

/-- The bytes of digits after the bytes `done` (last first). -/
def decodeFrom (done : Bytes) : List Char → Option Bytes
  | [] => some done.reverse
  | [a, b, '=', '='] => do
    let n := (← value? a) * 64 + (← value? b)
    if n % 16 = 0 then some (UInt8.ofNat (n / 16) :: done).reverse else none
  | [a, b, c, '='] => do
    let n := (← value? a) * 4096 + (← value? b) * 64 + (← value? c)
    if n % 4 = 0 then
      some (UInt8.ofNat (n / 4 % 256) :: UInt8.ofNat (n / 1024) :: done).reverse
    else none
  | a :: b :: c :: d :: rest =>
    match value? a, value? b, value? c, value? d with
    | some w, some x, some y, some z =>
      let n := w * 262144 + x * 4096 + y * 64 + z
      decodeFrom (UInt8.ofNat (n % 256) :: UInt8.ofNat (n / 256 % 256) ::
        UInt8.ofNat (n / 65536) :: done) rest
    | _, _, _, _ => none
  | _ => none

/-- The bytes of a text in base 64. -/
def decode? (s : String) : Option Bytes := decodeFrom [] s.toList

end Interpose.Base64
