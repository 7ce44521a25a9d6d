/-!
# Byte strings and ASCII

Bodies, source texts and artifacts are byte strings. This module fixes their type and the few
operations that look at bytes or characters as ASCII: letter case, the five blanks, trimming at
both ends, and searching for a run of elements.

Trimming removes blanks at the ends only, and case folding touches the 26 ASCII letters only, so
neither can split or merge the bytes of another character.
-/

namespace Interpose

/-- A string of bytes. -/
abbrev Bytes := List UInt8

namespace Bytes

/-- The bytes of a text in UTF-8. -/
def ofText (s : String) : Bytes := s.toList.flatMap String.utf8EncodeChar

/-- The ASCII blanks: tab, line feed, form feed, carriage return and space. -/
def isBlank (b : UInt8) : Bool := b == 9 || b == 10 || b == 12 || b == 13 || b == 32

/-- The lower-case form of an ASCII letter; any other byte stands for itself. -/
def lower (b : UInt8) : UInt8 := if 65 ≤ b ∧ b ≤ 90 then b + 32 else b

/-- Drop blanks at the end. -/
def trimEnd (s : Bytes) : Bytes := (s.reverse.dropWhile isBlank).reverse

/-- Drop blanks at both ends. -/
def trim (s : Bytes) : Bytes := trimEnd (s.dropWhile isBlank)

end Bytes

/-! ## Runs of elements -/

/-- Whether `needle` occurs in a list as a run of consecutive elements. -/
def hasRun {α : Type} [BEq α] (needle : List α) : List α → Bool
  | [] => needle.isEmpty
  | x :: xs => needle.isPrefixOf (x :: xs) || hasRun needle xs

/-- What stands after `start` at the front of a list, if it starts so. -/
def stripFront? {α : Type} [BEq α] : (start rest : List α) → Option (List α)
  | [], rest => some rest
  | _ :: _, [] => none
  | a :: as, b :: bs => if a == b then stripFront? as bs else none

theorem stripFront?_eq_some {α : Type} [BEq α] [LawfulBEq α] {start rest s : List α} :
    stripFront? start s = some rest ↔ s = start ++ rest := by
  induction start generalizing s with
  | nil => simp [stripFront?]
  | cons a start ih =>
    cases s with
    | nil => simp [stripFront?]
    | cons b s =>
      rw [stripFront?]
      by_cases hab : a = b
      · subst hab
        simp [ih]
      · simp [hab, Ne.symm hab]

/-! ## Texts -/

/-- Whether the text `needle` occurs in the text `hay`. -/
def hasText (hay needle : String) : Bool := hasRun needle.toList hay.toList

/-- Whether a text starts with `start`. -/
def startsText (s start : String) : Bool := start.toList.isPrefixOf s.toList

/-- Whether a text ends with `tail`. -/
def endsText (s tail : String) : Bool := tail.toList.isSuffixOf s.toList

/-- The text with its ASCII letters in lower case. -/
def lowerText (s : String) : String := s.map Char.toLower

/-- Whether two texts agree up to the case of ASCII letters. -/
def sameText (a b : String) : Bool := lowerText a == lowerText b

theorem sameText_self (a : String) : sameText a a = true := by
  simp [sameText]

/-- The pieces of a text between occurrences of a character; one piece more than occurrences. -/
def splitText (sep : Char) (s : String) : List String :=
  (s.toList.splitOn sep).map String.ofList

end Interpose
