import Interpose.Compression.Huffman

/-!
# The deflate format

A stream is a sequence of blocks: stored bytes, or symbols of two prefix codes that are fixed or
described in the block. A symbol is a byte, the end of the block, or a length; a distance follows a
length, and the pair copies bytes that came out before. Bytes before the start count as zeros.

Every symbol takes at least one bit, so a stream of `n` bits has at most `n` symbols, which bounds
the reading loops.
-/

namespace Interpose.Inflate

open Huffman

/-- What has come out so far. -/
abbrev Output := Array UInt8

/-- The least length and the extra bits of each length symbol from 257 on. -/
def lengthTable : List (Nat × Nat) :=
  [(3, 0), (4, 0), (5, 0), (6, 0), (7, 0), (8, 0), (9, 0), (10, 0), (11, 1), (13, 1), (15, 1),
   (17, 1), (19, 2), (23, 2), (27, 2), (31, 2), (35, 3), (43, 3), (51, 3), (59, 3), (67, 4),
   (83, 4), (99, 4), (115, 4), (131, 5), (163, 5), (195, 5), (227, 5), (258, 0)]

/-- The least distance and the extra bits of each distance symbol. -/
def distanceTable : List (Nat × Nat) :=
  [(1, 0), (2, 0), (3, 0), (4, 0), (5, 1), (7, 1), (9, 2), (13, 2), (17, 3), (25, 3), (33, 4),
   (49, 4), (65, 5), (97, 5), (129, 6), (193, 6), (257, 7), (385, 7), (513, 8), (769, 8),
   (1025, 9), (1537, 9), (2049, 10), (3073, 10), (4097, 11), (6145, 11), (8193, 12), (12289, 12),
   (16385, 13), (24577, 13)]

/-- The order in which the lengths of the code for word lengths are written. -/
def lengthOrder : List Nat := [16, 17, 18, 0, 8, 7, 9, 6, 10, 5, 11, 4, 12, 3, 13, 2, 14, 1, 15]

/-- The word lengths of the fixed code for bytes and lengths. -/
def fixedLengths : List Nat :=
  List.replicate 144 8 ++ List.replicate 112 9 ++ List.replicate 24 7 ++ List.replicate 8 8

/-- The word lengths of the fixed code for distances. -/
def fixedDistances : List Nat := List.replicate 32 5

/-- Copy `length` bytes from `distance` bytes back, one by one, so that a copy may overlap what it
writes. -/
def copy (distance : Nat) : Nat → Output → Output
  | 0, out => out
  | n + 1, out =>
    let b := if distance ≤ out.size then out.getD (out.size - distance) 0 else 0
    copy distance n (out.push b)

/-- The value of a length or distance symbol and its extra bits. -/
def valueOf? (table : List (Nat × Nat)) (symbol : Nat) (s : BitSource) :
    Except Damage (Nat × BitSource) :=
  match table[symbol]? with
  | none => .error .corrupt
  | some (least, extra) => do
    let (n, s) ← s.number? extra
    return (least + n, s)

/-- Read the symbols of a block up to its end; at most `fuel` of them. -/
def symbols? (literals distances : Tree) :
    Nat → BitSource → Output → Except Damage (BitSource × Output)
  | 0, _, _ => .error .incomplete
  | fuel + 1, s, out => do
    let (symbol, s) ← symbol? literals s
    if symbol < 256 then symbols? literals distances fuel s (out.push (UInt8.ofNat symbol))
    else if symbol = 256 then return (s, out)
    else
      let (length, s) ← valueOf? lengthTable (symbol - 257) s
      let (symbol, s) ← symbol? distances s
      let (distance, s) ← valueOf? distanceTable symbol s
      symbols? literals distances fuel s (copy distance length out)

/-- Read the bytes of a stored block: their number, its complement, and the bytes. -/
def stored? (s : BitSource) (out : Output) : Except Damage (BitSource × Output) :=
  match s.bytes with
  | a :: b :: c :: d :: rest =>
    let n := a.toNat + 256 * b.toNat
    if n + (c.toNat + 256 * d.toNat) = 0xFFFF then
      let taken := rest.take n
      if taken.length < n then .error .incomplete
      else .ok (⟨[], rest.drop n⟩, taken.foldl Array.push out)
    else .error .corrupt
  | _ => .error .incomplete

/-- Read a number of three-bit word lengths. -/
def shortLengths? : Nat → BitSource → Except Damage (List Nat × BitSource)
  | 0, s => .ok ([], s)
  | n + 1, s => do
    let (x, s) ← s.number? 3
    let (xs, s) ← shortLengths? n s
    return (x :: xs, s)

/-- Read word lengths, last first, until there are `total`: a symbol below 16 is a length, and the
others repeat the last length or zero. -/
def codedLengths? (tree : Tree) (total : Nat) :
    Nat → List Nat → BitSource → Except Damage (List Nat × BitSource)
  | 0, _, _ => .error .incomplete
  | fuel + 1, done, s =>
    if total < done.length then .error .corrupt
    else if done.length = total then .ok (done, s)
    else do
      let (symbol, s) ← symbol? tree s
      if symbol < 16 then codedLengths? tree total fuel (symbol :: done) s
      else if symbol = 16 then
        match done with
        | [] => .error .corrupt
        | last :: _ =>
          let (n, s) ← s.number? 2
          codedLengths? tree total fuel (List.replicate (3 + n) last ++ done) s
      else
        let long := symbol = 18
        let (n, s) ← s.number? (if long then 7 else 3)
        codedLengths? tree total fuel (List.replicate ((if long then 11 else 3) + n) 0 ++ done) s

/-- Read the codes that a block describes. -/
def codes? (s : BitSource) : Except Damage (Tree × Tree × BitSource) := do
  let (n, s) ← s.number? 5
  let (m, s) ← s.number? 5
  let (k, s) ← s.number? 4
  let literals := n + 257
  let distances := m + 1
  if 286 < literals || 30 < distances then throw .corrupt
  let (short, s) ← shortLengths? (k + 4) s
  let given := lengthOrder.zip short
  let lengths := (List.range 19).map fun i => ((given.find? (·.1 == i)).map (·.2)).getD 0
  let tree ← code? lengths
  let (all, s) ← codedLengths? tree (literals + distances) (s.size + 1) [] s
  let all := all.reverse
  let literalTree ← code? (all.take literals)
  let distanceTree ← code? (all.drop literals)
  return (literalTree, distanceTree, s)

/-- Read blocks up to the last; at most `fuel` of them. -/
def blocks? : Nat → BitSource → Output → Except Damage (BitSource × Output)
  | 0, _, _ => .error .incomplete
  | fuel + 1, s, out => do
    let (last, s) ← s.bit?
    let (kind, s) ← s.number? 2
    let (s, out) ← match kind with
      | 0 => stored? s.align out
      | 1 => do
        let literals ← code? fixedLengths
        let distances ← code? fixedDistances
        symbols? literals distances (s.size + 1) s out
      | 2 => do
        let (literals, distances, s) ← codes? s
        symbols? literals distances (s.size + 1) s out
      | _ => throw .corrupt
    if last then return (s, out) else blocks? fuel s out

end Interpose.Inflate

namespace Interpose

/-- The bytes of a deflate stream, and the bytes after it. -/
def inflate? (stream : Bytes) : Except Damage (Bytes × Bytes) :=
  match Inflate.blocks? (8 * stream.length + 1) ⟨[], stream⟩ #[] with
  | .error e => .error e
  | .ok (s, out) => .ok (out.toList, s.bytes)

end Interpose
