import Interpose.Shell.Format
import Interpose.Shell.Pattern

/-!
# Text filters

What the utilities that read a text and write a text make of it: counts, characters replaced,
lines chosen, cut, sorted and edited. They are functions on bytes and know nothing of files.
-/

namespace Interpose.Shell.Filter

/-! ## Lines -/

/-- The lines of a text, and what stands after the last line break. -/
def split (s : Bytes) : List Bytes × Bytes :=
  let (done, last) := s.foldl
    (fun (p : List Bytes × Bytes) b => if b == 10 then (p.2.reverse :: p.1, []) else (p.1, b :: p.2))
    ([], [])
  (done.reverse, last.reverse)

/-- The lines of a text; a last line need not end with a line break. -/
def lines (s : Bytes) : List Bytes :=
  let (all, last) := split s
  if last.isEmpty then all else all ++ [last]

/-- The text of some lines. -/
def unlines (ls : List Bytes) : Bytes := (ls.map (· ++ [10])).flatten

/-- The lines of a text with their line breaks. -/
def wholeLines (s : Bytes) : List Bytes :=
  let (all, last) := split s
  let all := all.map (· ++ [10])
  if last.isEmpty then all else all ++ [last]

/-! ## Counting -/

/-- How many words a text has. -/
def wordCount (s : Bytes) : Nat :=
  let blank (b : UInt8) : Bool := b == 32 || (9 ≤ b && b ≤ 13)
  (s.foldl (fun (p : Nat × Bool) b =>
    if blank b then (p.1, false) else (if p.2 then p.1 else p.1 + 1, true)) (0, false)).1

/-- The count of a text that a letter asks for. -/
def count (letter : Char) (s : Bytes) : Nat :=
  match letter with
  | 'l' => s.countP (· == 10)
  | 'w' => wordCount s
  | 'm' => (Utf8.units s).length
  | _ => s.length

/-- Numbers in columns of a width. -/
def columns (width : Nat) (counts : List Nat) : String :=
  " ".intercalate <| counts.map fun n =>
    let digits := toString n
    String.ofList (List.replicate (width - digits.length) ' ') ++ digits

/-! ## Replacing bytes -/

/-- The bytes from one to another. -/
def range (low high : UInt8) : Bytes :=
  (List.range (high.toNat + 1 - low.toNat)).map fun i => UInt8.ofNat (low.toNat + i)

/-- All bytes. -/
def allBytes : Bytes := range 0 255

/-- The bytes that a set of `tr` lists. -/
def listed : Nat → Bytes → Bytes
  | 0, _ => []
  | fuel + 1, s =>
    match s with
    | [] => []
    | 0x5B :: 0x3A :: rest =>
      match Pattern.className? [] rest with
      | some (name, rest) => allBytes.filter (Pattern.inClass name) ++ listed fuel rest
      | none => 0x5B :: listed fuel (0x3A :: rest)
    | b :: rest =>
      let (low, rest) := match b, rest with
        | 92, _ :: _ =>
          match Format.escape rest with
          | ([e], rest) => (e, rest)
          | _ => (rest.headD 92, rest.drop 1)
        | b, rest => (b, rest)
      match rest with
      | 0x2D :: high :: rest => range low high ++ listed fuel rest
      | rest => low :: listed fuel rest

/-- The bytes that a set of `tr` lists, or all others. -/
def members (others : Bool) (s : Bytes) : Bytes :=
  let set := listed (s.length + 1) s
  if others then allBytes.filter fun b => !set.contains b else set

/-- A table of what each byte becomes when the members of a list become those of another, whose
last stands for all that it lacks. -/
def table (source target : Bytes) : Array UInt8 :=
  let last := target.getLastD 0
  let pairs := source.zip (target ++ List.replicate source.length last)
  pairs.foldl (fun t (a, b) => t.set! a.toNat b) allBytes.toArray

/-- Replace the bytes of a text by a table. -/
def translate (t : Array UInt8) (s : Bytes) : Bytes := s.map fun b => t[b.toNat]?.getD b

/-- Drop the bytes of a list. -/
def dropBytes (set s : Bytes) : Bytes := s.filter fun b => !set.contains b

/-- Keep one of each run of a byte from a list. -/
def squeeze (set s : Bytes) : Bytes :=
  (s.foldl (fun (done : Bytes) b =>
    if done.head? == some b && set.contains b then done else b :: done) []).reverse

/-! ## Choosing lines -/

/-- The first lines of a text. -/
def firstLines (n : Nat) (s : Bytes) : Bytes := ((wholeLines s).take n).flatten

/-- The last lines of a text. -/
def lastLines (n : Nat) (s : Bytes) : Bytes :=
  let ls := wholeLines s
  (ls.drop (ls.length - n)).flatten

/-- The lines that differ from the one before, each with the number of times it stands there. -/
def runs (ls : List Bytes) : List (Nat × Bytes) :=
  (ls.foldl (fun (done : List (Nat × Bytes)) l =>
    match done with
    | (n, k) :: rest => if k == l then (n + 1, k) :: rest else (1, l) :: done
    | [] => [(1, l)]) []).reverse

/-- Whether a line stands no later than another in byte order. -/
def before : Bytes → Bytes → Bool
  | [], _ => true
  | _ :: _, [] => false
  | a :: as, b :: bs => if a == b then before as bs else a < b

/-- The number at the front of a line, after blanks. -/
def leadingNumber (l : Bytes) : Int :=
  match l.dropWhile fun b => b == 32 || b == 9 with
  | 0x2D :: rest => -((Format.decimal 0 rest).1 : Int)
  | l => (Format.decimal 0 l).1

/-- Lines in order; the letters choose a numeric or reversed order, and dropping repetitions. -/
def sorted (letters : List Char) (ls : List Bytes) : List Bytes :=
  let numeric := letters.contains 'n'
  let compare (a b : Bytes) : Bool :=
    if numeric then
      let m := leadingNumber a
      let n := leadingNumber b
      if m == n then before a b else m < n
    else before a b
  let ls := ls.mergeSort compare
  let ls := if letters.contains 'u' then (runs ls).map (·.2) else ls
  if letters.contains 'r' then ls.reverse else ls

/-- The parts of a line that a search matches, from a position on. -/
def matchesOf (q : Search) : Nat → Bool → Bytes → List Bytes
  | 0, _, _ => []
  | fuel + 1, atStart, left =>
    match q.longest? atStart left with
    | some (n + 1) => left.take (n + 1) :: matchesOf q fuel false (left.drop (n + 1))
    | _ =>
      match left with
      | [] => []
      | _ :: rest => matchesOf q fuel false rest

/-! ## Cutting lines -/

/-- The numbers that a list such as `1,3-5` names, as ranges with an open end for none. -/
def ranges (s : String) : List (Nat × Option Nat) :=
  (splitText ',' s).map fun piece =>
    match splitText '-' piece with
    | [n] => (n.toNat?.getD 0, n.toNat?)
    | [a, ""] => (a.toNat?.getD 1, none)
    | [a, b] => (a.toNat?.getD 1, b.toNat?)
    | _ => (0, some 0)

/-- The members of a list whose numbers, counted from one, lie in some ranges. -/
def pick {α : Type} (rs : List (Nat × Option Nat)) (xs : List α) : List α :=
  (xs.zipIdx 1).filterMap fun (x, i) =>
    if rs.any fun (low, high) => low ≤ i && high.all (i ≤ ·) then some x else none

/-- The chosen fields of a line; a line without the separator stays whole. -/
def fields (separator : UInt8) (rs : List (Nat × Option Nat)) (l : Bytes) : Bytes :=
  if l.contains separator then [separator].intercalate (pick rs (l.splitOn separator)) else l

/-! ## Editing lines -/

/-- A replacement: what to look for, what to put there, and whether to do so throughout. -/
structure Edit where
  search : Search
  target : Bytes
  throughout : Bool := false

/-- The text up to a separator, and what follows it; a backslash protects the separator. -/
def upTo? (separator : UInt8) (done : Bytes) : Bytes → Option (Bytes × Bytes)
  | [] => none
  | 92 :: b :: rest =>
    if b == separator then upTo? separator (b :: done) rest
    else upTo? separator (b :: 92 :: done) rest
  | b :: rest => if b == separator then some (done.reverse, rest) else upTo? separator (b :: done) rest

/-- Read an edit such as `s/a/b/g`. -/
def Edit.read? (extended : Bool) : Bytes → Option Edit
  | 0x73 :: separator :: rest => do
    let (pattern, rest) ← upTo? separator [] rest
    let (target, rest) ← upTo? separator [] rest
    let search ← Search.ofPattern? extended pattern
    match rest with
    | [] => return { search, target }
    | [0x67] => return { search, target, throughout := true }
    | _ => none
  | _ => none

/-- The text of a replacement, with the matched text for each `&`. -/
def filled (matched : Bytes) : Bytes → Bytes
  | 92 :: 0x6E :: rest => 10 :: filled matched rest
  | 92 :: b :: rest => b :: filled matched rest
  | 0x26 :: rest => matched ++ filled matched rest
  | b :: rest => b :: filled matched rest
  | [] => []

/-- Edit a line from a position on; `done` is what stands before it, last byte first. -/
def Edit.apply (e : Edit) : Nat → Bytes → Bytes → Bytes
  | 0, done, left => done.reverse ++ left
  | fuel + 1, done, left =>
    match e.search.longest? done.isEmpty left with
    | some n =>
      let done := (filled (left.take n) e.target).reverse ++ done
      let rest := left.drop n
      if !e.throughout then done.reverse ++ rest
      else if n = 0 then
        match rest with
        | [] => done.reverse
        | b :: rest => e.apply fuel (b :: done) rest
      else if rest.isEmpty then done.reverse
      else e.apply fuel done rest
    | none =>
      match left with
      | [] => done.reverse
      | b :: rest => e.apply fuel (b :: done) rest

/-- Edit each line of a text. -/
def Edit.onLines (e : Edit) (s : Bytes) : Bytes :=
  ((wholeLines s).map fun l =>
    if l.getLast? == some 10 then e.apply (l.length + 1) [] l.dropLast ++ [10]
    else e.apply (l.length + 1) [] l).flatten

end Interpose.Shell.Filter
