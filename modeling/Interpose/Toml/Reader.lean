import Interpose.Toml.Number

/-!
# Reading TOML

A document is a list of lines: blank ones, headers, and keys with a value. Each line is an addition
to the root table (`Toml.edit`); keys count from the table of the last header. Containers nest less
than eighty deep, and a dotted key has less than eighty parts.

`Toml.read?` answers the root table of a text. A byte order mark may stand before it.
-/

namespace Interpose.Toml

/-! ## Space -/

/-- Skip blanks. -/
def skipBlanks (s : List Char) : List Char := s.dropWhile isBlank

/-- Read over the end of a line: blanks, a comment if there is one, and the line break or the end
of the text. -/
def lineEnd? (s : List Char) : Option (List Char) :=
  let s := match skipBlanks s with
    | '#' :: rest => rest.dropWhile isPlain
    | s => s
  if s.isEmpty then some [] else lineBreak? s

/-- Skip blanks, comments and line breaks inside an array. -/
def skipSpace (inComment : Bool) : List Char → Option (List Char)
  | [] => if inComment then none else some []
  | '\n' :: rest => skipSpace false rest
  | '\r' :: '\n' :: rest => skipSpace false rest
  | c :: rest =>
    if inComment then if isPlain c then skipSpace true rest else none
    else if isBlank c then skipSpace false rest
    else if c == '#' then skipSpace true rest
    else some (c :: rest)

/-! ## Keys -/

/-- A character of a bare key. -/
def isKeyChar (c : Char) : Bool := c.isAlphanum || c == '_' || c == '-'

/-- A part of a key. -/
def keyPart? : Step String
  | '"' :: rest => inlineLiteral? true rest
  | '\'' :: rest => inlineLiteral? false rest
  | s =>
    let name := s.takeWhile isKeyChar
    if name.isEmpty then none else some (String.ofList name, s.drop name.length)

/-- The parts of a key with dots between, after `done`, which is read, last first. -/
def keyParts? : Nat → List String → Step (List String)
  | 0, _, _ => none
  | left + 1, done, s => do
    let (part, s) ← keyPart? (skipBlanks s)
    match skipBlanks s with
    | '.' :: rest => keyParts? left (part :: done) rest
    | s => return ((part :: done).reverse, s)

/-- A key: the parts before the last, and the last. -/
def key? : Step (List String × String) := fun s => do
  let (parts, rest) ← keyParts? 79 [] s
  return ((parts.dropLast, ← parts.getLast?), rest)

/-! ## Values -/

/-- The items of an array after its opening bracket or a comma; `done` is read, last first. -/
def items? (item : Step Toml) : Nat → List Toml → Step (List Toml)
  | 0, _, _ => none
  | fuel + 1, done, s => do
    match ← skipSpace false s with
    | ']' :: rest => return (done.reverse, rest)
    | s =>
      let (v, s) ← item s
      match ← skipSpace false s with
      | ',' :: rest => items? item fuel (v :: done) rest
      | ']' :: rest => return ((v :: done).reverse, rest)
      | _ => none

/-- A key with its value in a table in braces. -/
def member? (value : Step Toml) (done : Entries) : Step Entries := fun s => do
  let ((path, key), s) ← key? s
  let (v, s) ← value (skipBlanks (← mark? '=' s))
  return (← assign path key v .braces done, skipBlanks s)

/-- The members of a table in braces after its opening brace or a comma. -/
def members? (value : Step Toml) : Nat → Entries → Step Entries
  | 0, _, _ => none
  | fuel + 1, done, s => do
    match ← member? value done s with
    | (done, ',' :: rest) => members? value fuel done rest
    | (done, '\x7d' :: rest) => return (done, rest)
    | _ => none

/-- A value that is no container. -/
def scalar? : Step Toml
  | 't' :: 'r' :: 'u' :: 'e' :: rest => some (.boolean true, rest)
  | 'f' :: 'a' :: 'l' :: 's' :: 'e' :: rest => some (.boolean false, rest)
  | s =>
    match s with
    | '"' :: _ | '\'' :: _ => (literal? s).map fun (t, rest) => (.text t, rest)
    | _ => figure? s

/-- A value in which containers nest at most `depth` deep. -/
def value? : Nat → Step Toml
  | 0, s => scalar? s
  | depth + 1, s =>
    match s with
    | '[' :: rest =>
      (items? (value? depth) (rest.length + 1) [] rest).map fun (vs, r) => (.array vs, r)
    | '\x7b' :: rest =>
      match skipBlanks rest with
      | '\x7d' :: r => some (.table .braces [], r)
      | _ =>
        (members? (value? depth) (rest.length + 1) [] rest).map fun (es, r) =>
          (.table .braces es, r)
    | _ => scalar? s

/-! ## Documents -/

/-- A document so far: the root table, and the path of the last header. -/
structure Draft where
  root : Entries := []
  under : List String := []

/-- Read a line that is not blank. -/
def line? (d : Draft) : Step Draft
  | '[' :: '[' :: s => do
    let ((path, key), s) ← key? s
    let rest ← lineEnd? (← mark? ']' (← mark? ']' s))
    return (⟨← openElement path key d.root, path ++ [key]⟩, rest)
  | '[' :: s => do
    let ((path, key), s) ← key? s
    let rest ← lineEnd? (← mark? ']' s)
    return (⟨← openTable path key d.root, path ++ [key]⟩, rest)
  | s => do
    let ((path, key), s) ← key? s
    let (v, s) ← value? 79 (skipBlanks (← mark? '=' s))
    let rest ← lineEnd? s
    let root ← edit false (assign path key v) d.under .header d.root
    return (⟨root, d.under⟩, rest)

/-- Read lines to the end of the text. -/
def lines? : Nat → Draft → List Char → Option Entries
  | 0, _, _ => none
  | fuel + 1, d, s =>
    match skipBlanks s with
    | [] => some d.root
    | s =>
      match lineEnd? s with
      | some rest => lines? fuel d rest
      | none =>
        match line? d s with
        | some (d, rest) => lines? fuel d rest
        | none => none

/-- The root table of a document. -/
def read? (text : String) : Option Toml :=
  let s := match text.toList with
    | '\uFEFF' :: rest => rest
    | s => s
  (lines? (s.length + 1) {} s).map (.table .header)

end Interpose.Toml
