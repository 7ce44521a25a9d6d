import Interpose.Unicode.CombiningClass
import Interpose.Unicode.Decomposition

/-!
# The composed form of a text

One text can be spelled with precomposed characters or with a base character and combining marks.
The composed form is the spelling that all of them share: every character is decomposed, marks are
put into the order of their combining classes, and what composes is composed again.
-/

namespace Interpose.Unicode

/-- The canonical combining class of a character. -/
def combiningClass (c : Char) : Nat :=
  match combiningClasses.row? c with
  | some row => (String.ofList (row.content.drop 1)).toNat?.getD 0
  | none => 0

/-! ## Hangul syllables -/

/-- The parts of a Hangul syllable: a leading consonant, a vowel, and often a trailing one. -/
def hangulParts? (c : Char) : Option (List Char) :=
  let n := c.toNat
  if 0xAC00 ≤ n ∧ n ≤ 0xD7A3 then
    let i := n - 0xAC00
    let lead := Char.ofNat (0x1100 + i / 588)
    let vowel := Char.ofNat (0x1161 + i % 588 / 28)
    if i % 28 = 0 then some [lead, vowel]
    else some [lead, vowel, Char.ofNat (0x11A7 + i % 28)]
  else none

/-- The Hangul syllable of two parts. -/
def hangulPair? (a b : Char) : Option Char :=
  let (m, n) := (a.toNat, b.toNat)
  if 0x1100 ≤ m ∧ m ≤ 0x1112 ∧ 0x1161 ≤ n ∧ n ≤ 0x1175 then
    some (Char.ofNat (0xAC00 + ((m - 0x1100) * 21 + (n - 0x1161)) * 28))
  else if 0xAC00 ≤ m ∧ m ≤ 0xD7A3 ∧ (m - 0xAC00) % 28 = 0 ∧ 0x11A8 ≤ n ∧ n ≤ 0x11C2 then
    some (Char.ofNat (m + (n - 0x11A7)))
  else none

/-! ## Decomposition -/

/-- The decomposition of a character, to the given depth. No decomposition is deeper than four. -/
def decomposeTo : Nat → Char → List Char
  | 0, c => [c]
  | depth + 1, c =>
    match hangulParts? c with
    | some parts => parts
    | none =>
      match decompositions.row? c with
      | some row => row.codes.flatMap fun n => decomposeTo depth (Char.ofNat n)
      | none => [c]

/-- Put a mark, with its class, before the marks of a higher class. -/
def insertMark (mark : Nat × Char) : List (Nat × Char) → List (Nat × Char)
  | [] => [mark]
  | m :: rest => if mark.1 < m.1 then mark :: m :: rest else m :: insertMark mark rest

/-- Put the marks after each base character into the order of their classes; `marks` are those
since the last base character. -/
def orderMarks (marks : List (Nat × Char)) : List Char → List Char
  | [] => marks.map (·.2)
  | c :: rest =>
    let k := combiningClass c
    if k = 0 then marks.map (·.2) ++ c :: orderMarks [] rest
    else orderMarks (insertMark (k, c) marks) rest

/-! ## Composition -/

/-- The character that two compose to. -/
def compose? (a b : Char) : Option Char :=
  match hangulPair? a b with
  | some c => some c
  | none =>
    (Array.find? (fun row : RangeRow =>
      row.content.head? == some ':' && row.codes == [a.toNat, b.toNat]) decompositions).map
        fun row => Char.ofNat row.first

/-- A base character that may still take marks, and the marks after it, last first, that it has
not taken. -/
structure Base where
  char : Char
  passed : List Char := []
  lastClass : Nat := 0

/-- The characters of a base that takes no more marks. -/
def Base.chars (b : Base) : List Char := b.char :: b.passed.reverse

/-- Compose what composes. A mark reaches the base only past marks of a lower class. -/
def composeFrom (base : Option Base) : List Char → List Char
  | [] => (base.map Base.chars).getD []
  | c :: rest =>
    let k := combiningClass c
    match base with
    | none => if k = 0 then composeFrom (some ⟨c, [], 0⟩) rest else c :: composeFrom none rest
    | some b =>
      let reaches := b.passed.isEmpty || b.lastClass < k
      match if reaches then compose? b.char c else none with
      | some p => composeFrom (some { b with char := p }) rest
      | none =>
        if k = 0 then b.chars ++ composeFrom (some ⟨c, [], 0⟩) rest
        else composeFrom (some ⟨b.char, c :: b.passed, k⟩) rest

/-- The composed form of a text. -/
def composed (text : List Char) : List Char :=
  composeFrom none (orderMarks [] (text.flatMap (decomposeTo 4)))

end Interpose.Unicode
