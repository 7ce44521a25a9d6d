import Interpose.Compression.Inflate
import Interpose.Digest.Checksum

/-!
# Compressed bodies

The three wrappings of a deflate stream that responses use. A gzip member has a header with optional
fields and a trailer with checksum and length; a zlib stream has a two-byte header and a checksum; a
raw stream has neither. Only the first member or stream counts, and bytes after it are ignored.
-/

namespace Interpose.Gzip

/-- Why a gzip body cannot be read. -/
inductive Trouble
  | badHeader
  | endOfInput
  | fieldTooLong
  | mismatch
  | stream (d : Damage)
  deriving DecidableEq, Repr

/-- The wording of a damaged deflate stream. -/
def damageText : Damage → String
  | .incomplete => "incomplete deflate stream"
  | .corrupt => "corrupt deflate stream"

/-- The wording of a trouble. -/
def Trouble.text : Trouble → String
  | badHeader => "invalid gzip header"
  | endOfInput => "unexpected end of file"
  | fieldTooLong => "gzip header field too long"
  | mismatch => "corrupt gzip stream does not have a matching checksum"
  | stream d => damageText d

/-- The longest name or comment of a header. -/
def fieldLimit : Nat := 65535

/-- Skip a field that a zero byte ends; `taken` bytes of it are skipped already. -/
def skipText? (taken : Nat) : Bytes → Except Trouble Bytes
  | [] => .error .endOfInput
  | b :: rest =>
    if b = 0 then .ok rest
    else if taken = fieldLimit then .error .fieldTooLong
    else skipText? (taken + 1) rest

/-- Skip a number of bytes. -/
def skip? (n : Nat) (s : Bytes) : Except Trouble Bytes :=
  if s.length < n then .error .endOfInput else .ok (s.drop n)

/-- Skip the fields of a header that its flags announce: extra data, name and comment. -/
def skipFields? (flags : UInt8) (s : Bytes) : Except Trouble Bytes := do
  let s ← if flags &&& 4 = 0 then pure s else
    match s with
    | a :: b :: rest => skip? (a.toNat + 256 * b.toNat) rest
    | _ => throw .endOfInput
  let s ← if flags &&& 8 = 0 then pure s else skipText? 0 s
  if flags &&& 16 = 0 then pure s else skipText? 0 s

/-- The part of a gzip body after its header. A header checksum covers all bytes before it. -/
def afterHeader? (body : Bytes) : Except Trouble Bytes :=
  match body with
  | a :: b :: method :: flags :: _ :: _ :: _ :: _ :: _ :: _ :: rest => do
    if a ≠ 0x1F || b ≠ 0x8B || method ≠ 8 || flags &&& 0xE0 ≠ 0 then throw .badHeader
    let s ← skipFields? flags rest
    if flags &&& 2 = 0 then return s
    match s with
    | x :: y :: rest =>
      let covered := body.take (body.length - s.length)
      if (crc32 covered).toNat % 65536 = x.toNat + 256 * y.toNat then return rest
      else throw .mismatch
    | _ => throw .endOfInput
  | _ => .error .endOfInput

/-- A number of four bytes, least significant first. -/
def littleEndian (a b c d : UInt8) : Nat :=
  a.toNat + 256 * (b.toNat + 256 * (c.toNat + 256 * d.toNat))

/-- The content of a gzip body. -/
def decode? (body : Bytes) : Except Trouble Bytes := do
  let stream ← afterHeader? body
  match inflate? stream with
  | .error d => throw (.stream d)
  | .ok (content, rest) =>
    match rest with
    | a :: b :: c :: d :: e :: f :: g :: h :: _ =>
      if (crc32 content).toNat = littleEndian a b c d &&
          content.length % 0x100000000 = littleEndian e f g h then
        return content
      else throw .mismatch
    | _ => throw .endOfInput

end Interpose.Gzip

namespace Interpose.Zlib

/-- The content of a zlib stream, if it is sound. -/
def decode? (body : Bytes) : Option Bytes :=
  match body with
  | a :: b :: stream =>
    let (m, f) := (a.toNat, b.toNat)
    if (m * 256 + f) % 31 = 0 ∧ m % 16 = 8 ∧ m / 16 ≤ 7 ∧ f / 32 % 2 = 0 then
      match inflate? stream with
      | .ok (content, w :: x :: y :: z :: _) =>
        let sum := ((w.toNat * 256 + x.toNat) * 256 + y.toNat) * 256 + z.toNat
        if adler32 content = sum then some content else none
      | _ => none
    else none
  | _ => none

end Interpose.Zlib
