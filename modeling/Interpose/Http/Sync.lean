import Interpose.Bytes
import Interpose.Text.Span

/-!
# The `sync` piece of a query

A client adds `sync=…` to the query of a URL so that no cache in between answers. The piece is
taken out of the URL by its text alone: the query runs from the first `?` to the next `#` or the
end, its pieces stand between `&`, and the first piece that starts with `sync=` goes, with one
separator. Everything else of the URL stays as it is, the fragment included.

The piece is looked for with a running byte offset, and what goes is one span of the URL.
-/

namespace Interpose.Sync

/-- What a `sync` piece starts with. -/
def start : List Char := "sync=".toList

/-- What is taken out of a URL: the span from one byte offset to another, and the value in it. -/
structure Cut where
  first : Nat
  stop : Nat
  value : List Char
  deriving DecidableEq, Repr

/-- The span of the first `sync` piece, with the separator behind it, or with the one before it
where the query ends. The pieces start at an offset. -/
def search (queryStop : Nat) : Nat → List (List Char) → Option Cut
  | _, [] => none
  | offset, piece :: rest =>
    let pieceEnd := offset + Span.size piece
    match stripFront? start piece with
    | some value =>
      if pieceEnd < queryStop then some ⟨offset, pieceEnd + 1, value⟩
      else some ⟨offset - 1, pieceEnd, value⟩
    | none => search queryStop (pieceEnd + 1) rest

/-- The offset at which the query of a URL ends, given where it starts and what stands from there
on. -/
def queryEnd (url rest : List Char) (queryStart : Nat) : Nat :=
  match Span.offset? '#' rest with
  | some i => queryStart + i
  | none => Span.size url

/-- The URL without a span, and the value in it. -/
def Cut.apply (cut : Cut) (url : List Char) : Except Span.Misplaced (String × String) := do
  let front ← Span.before url cut.first
  let back ← Span.behind url cut.stop
  return (String.ofList (front ++ back), String.ofList cut.value)

/-- The URL without its first `sync` piece, and that piece's value; none without such a piece. It is
a fault to cut the URL where no character ends. -/
def strip (url : String) : Except Span.Misplaced (Option (String × String)) := do
  let chars := url.toList
  match Span.offset? '?' chars with
  | none => return none
  | some mark =>
    let queryStart := mark + 1
    let rest ← Span.behind chars queryStart
    let stop := queryEnd chars rest queryStart
    let query ← Span.between chars queryStart stop
    match search stop queryStart (query.splitOn '&') with
    | none => return none
    | some cut => return some (← cut.apply chars)

/-- What `strip` answers. -/
def strip? (url : String) : Option (String × String) :=
  match strip url with
  | .ok answer => answer
  | .error _ => none

end Interpose.Sync
