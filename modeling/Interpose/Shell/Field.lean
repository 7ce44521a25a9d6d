import Interpose.Shell.Machine
import Interpose.Shell.Pattern

/-!
# Fields

A word expands to pieces, and pieces make fields: quoted text and text of the script stay whole, the
value of an unquoted expansion is split at separators, and an unquoted pattern stands for the paths
that match it.
-/

namespace Interpose.Shell

/-- What a part of a word expands to. -/
inductive Piece
  | text (quoted : Bool) (s : Bytes)
  /-- A value that is split at separators. -/
  | value (s : Bytes)
  /-- The border between two parameters. -/
  | gap
  /-- The quoted list of no parameters, which makes no field. -/
  | absent
  deriving DecidableEq, Repr

/-- A field in the making; each byte remembers whether it was quoted. -/
abbrev Field := List (Bool × UInt8)

namespace Piece

/-- The bytes of some pieces, unsplit. -/
def flat (pieces : List Piece) : Bytes :=
  (pieces.map fun p =>
    match p with
    | text _ s => s
    | value s => s
    | gap => [32]
    | absent => []).flatten

/-- The bytes of some pieces, unsplit, marked as quoted or not. -/
def marked (pieces : List Piece) : Field :=
  (pieces.map fun p =>
    match p with
    | text quoted s => s.map (quoted, ·)
    | value s => s.map (false, ·)
    | gap => [(false, 32)]
    | absent => []).flatten

/-- The pieces of an expansion's own word: where the expansion is unquoted, its text is split. -/
def loosen (quoted : Bool) (pieces : List Piece) : List Piece :=
  if quoted then pieces
  else pieces.map fun p =>
    match p with
    | text false s => value s
    | p => p

/-- The pieces of a value. -/
def ofValue (quoted : Bool) (s : Bytes) : Piece := if quoted then text true s else value s

/-- The pieces of all parameters, one field each. -/
def ofParameters (quoted : Bool) (parameters : List Bytes) : List Piece :=
  if quoted && parameters.isEmpty then [absent]
  else (parameters.map (ofValue quoted)).intersperse gap

end Piece

/-! ## Splitting -/

/-- Fields in the making: those that are complete, last first, and the one begun, last byte
first. -/
structure Fields where
  complete : List Field := []
  begun : Option Field := none

namespace Fields

/-- End the field that was begun. -/
def close (f : Fields) : Fields :=
  match f.begun with
  | some field => { complete := field.reverse :: f.complete }
  | none => f

/-- Take a byte of a value. A blank separator ends a field, any other ends even an empty one. -/
def take (separators : Bytes) (f : Fields) (b : UInt8) : Fields :=
  if separators.contains b then
    if b == 32 || b == 9 || b == 10 then f.close
    else ({ f with begun := some (f.begun.getD []) } : Fields).close
  else { f with begun := some ((false, b) :: f.begun.getD []) }

/-- Take a piece. -/
def add (separators : Bytes) (f : Fields) : Piece → Fields
  | .text quoted s =>
    if s.isEmpty && !quoted then f
    else { f with begun := some ((s.map (quoted, ·)).reverse ++ f.begun.getD []) }
  | .value s => s.foldl (take separators) f
  | .gap => f.close
  | .absent => if f.begun == some [] then { f with begun := none } else f

/-- The fields that pieces make. -/
def ofPieces (separators : Bytes) (pieces : List Piece) : List Field :=
  (pieces.foldl (add separators) {}).close.complete.reverse

end Fields

/-- The separators of a machine: blanks, unless its variable `IFS` lists others. -/
def Machine.separators (m : Machine) : Bytes := (m.get? "IFS").getD [32, 9, 10]

/-! ## Paths -/

/-- Whether a field is a pattern. -/
def isPattern (f : Field) : Bool := f.any fun (quoted, b) => !quoted && (b == 0x2A || b == 0x3F || b == 0x5B)

/-- The bytes of a field. -/
def plain (f : Field) : Bytes := f.map (·.2)

/-- The paths below a directory that match steps of a pattern; `path` leads to the directory. -/
def pathsFrom (tree : FileTree) (path : String) : List Field → List String
  | [] => [path]
  | step :: rest =>
    let below (name : String) : String := if path == "" then name else Path.join path name
    if isPattern step then
      let pattern := Pattern.glob (step.length + 1) step
      let hidden := step.head?.any (·.2 == 0x2E)
      match tree.list (if path == "" then "." else path) with
      | .error _ => []
      | .ok children =>
        (children.filter fun (name, _) =>
          pattern.accepts (Bytes.ofText name) && (hidden || !startsText name ".")).flatMap
            fun (name, _) => pathsFrom tree (below name) rest
    else
      let next := below (Utf8.decodeLossy (plain step))
      if tree.isThere next then pathsFrom tree next rest else []

/-- The paths that a pattern stands for, or itself if there are none. -/
def expandPaths (tree : FileTree) (f : Field) : List Bytes :=
  if isPattern f then
    let steps := (f.splitOnP (·.2 == 0x2F)).filter (!·.isEmpty)
    let start := if f.head?.any (·.2 == 0x2F) then "/" else ""
    match pathsFrom tree start steps with
    | [] => [plain f]
    | paths => paths.map Bytes.ofText
  else [plain f]

end Interpose.Shell
