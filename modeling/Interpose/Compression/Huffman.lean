import Interpose.Compression.Bits

/-!
# Prefix codes

A code is given by the length of each symbol's word. Words of one length are consecutive binary
numbers in the order of their symbols, and follow the words of the lengths below. The words are
read along a tree whose edges are bits.

A set of lengths describes a code when the words fill the tree exactly; a code with at most one
word may leave the tree unfilled.
-/

namespace Interpose.Huffman

/-- A code tree: a symbol, a branch on the next bit, or nothing. -/
inductive Tree
  | none
  | leaf (symbol : Nat)
  | branch (zero one : Tree)
  deriving Repr

/-- Put a symbol at the end of a word. -/
def Tree.insert (symbol : Nat) : List Bool → Tree → Tree
  | [], _ => .leaf symbol
  | false :: word, .branch z o => .branch (z.insert symbol word) o
  | true :: word, .branch z o => .branch z (o.insert symbol word)
  | false :: word, _ => .branch (Tree.none.insert symbol word) .none
  | true :: word, _ => .branch .none (Tree.none.insert symbol word)

/-- The greatest length of a word. -/
def maxLength : Nat := 15

/-- The bits of a word, first bit first. -/
def wordBits (length code : Nat) : List Bool :=
  ((List.range length).map fun i => code.testBit i).reverse

/-- The tree after giving words of length `n` to the symbols that have it, from the code `next`. -/
def addLength (n : Nat) (symbols : List (Nat × Nat)) (next : Nat) (tree : Tree) : Nat × Tree :=
  (symbols.filter (·.2 == n)).foldl
    (fun (next, tree) (symbol, _) => (next + 1, tree.insert symbol (wordBits n next)))
    (next, tree)

/-- The share of the tree that the words fill, in words of the greatest length. -/
def filled (lengths : List Nat) : Nat :=
  (lengths.map fun n => if n = 0 then 0 else Nat.pow 2 (maxLength - n)).foldl (· + ·) 0

/-- The code with the given word lengths, symbol by symbol; length zero is no word. -/
def code? (lengths : List Nat) : Except Damage Tree :=
  let used := (lengths.filter (0 < ·)).length
  if 1 < used && filled lengths != Nat.pow 2 maxLength then .error .corrupt
  else
    let symbols := (List.range lengths.length).zip lengths
    let (_, tree) := (List.range maxLength).foldl
      (fun (next, tree) i =>
        let (next, tree) := addLength (i + 1) symbols next tree
        (2 * next, tree))
      (0, Tree.none)
    .ok tree

/-- Read a symbol. A word that the code does not have is told from an early end only once as many
bits are there as the longest word may take; `left` is that number at the start of the word. -/
def Tree.read? (left : Nat) : Tree → BitSource → Except Damage (Nat × BitSource)
  | .none, _ => .error (if left < maxLength then .incomplete else .corrupt)
  | .leaf symbol, s => .ok (symbol, s)
  | .branch z o, s =>
    match s.bit? with
    | .error e => .error e
    | .ok (b, s) => if b then o.read? left s else z.read? left s

/-- Read a symbol of a code. -/
def symbol? (tree : Tree) (s : BitSource) : Except Damage (Nat × BitSource) := tree.read? s.size s

end Interpose.Huffman
