/-!
# Spans of a text by byte offsets

A place in a text can be told by the bytes of the characters before it, counted in UTF-8. A text is
cut only where a character ends: an offset inside a character, or behind the end of the text, is
refused.
-/

namespace Interpose.Span

/-- An offset at which a text cannot be cut. -/
structure Misplaced where
  offset : Nat
  deriving DecidableEq, Repr

/-- How many bytes characters take. -/
def size : List Char → Nat
  | [] => 0
  | c :: s => c.utf8Size + size s

/-- The offset of the first occurrence of a character. -/
def offset? (c : Char) : List Char → Option Nat
  | [] => none
  | d :: s => if d = c then some 0 else (offset? c s).map (d.utf8Size + ·)

/-- The characters before an offset and those from it on, if a character ends there. -/
def cut? : List Char → Nat → Option (List Char × List Char)
  | s, 0 => some ([], s)
  | [], _ + 1 => none
  | c :: s, n + 1 =>
    if c.utf8Size ≤ n + 1 then
      (cut? s (n + 1 - c.utf8Size)).map fun (front, back) => (c :: front, back)
    else none

/-- The characters before an offset. -/
def before (s : List Char) (stop : Nat) : Except Misplaced (List Char) :=
  match cut? s stop with
  | some (front, _) => .ok front
  | none => .error ⟨stop⟩

/-- The characters from an offset on. -/
def behind (s : List Char) (start : Nat) : Except Misplaced (List Char) :=
  match cut? s start with
  | some (_, back) => .ok back
  | none => .error ⟨start⟩

/-- The characters from one offset to another, which is not smaller. -/
def between (s : List Char) (start stop : Nat) : Except Misplaced (List Char) :=
  if start ≤ stop then
    match behind s start with
    | .ok back => before back (stop - start)
    | .error fault => .error fault
  else .error ⟨start⟩

end Interpose.Span
