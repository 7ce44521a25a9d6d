import Interpose.Bytes

/-!
# TOML values

A table remembers how it came to be, because that decides what a later line may add to it: a table
in braces is complete, a table made by a dotted key takes more dotted keys but no header, a table
under a header takes no second header, and a table that was only passed through on the way to
another may still get a header of its own.

`edit` walks a path of keys, making the tables on the way, and changes the table at its end. Every
way of adding to a document is an `edit`; it answers `none` when TOML forbids the addition.
-/

namespace Interpose

/-- How a table came to be. -/
inductive Origin
  /-- Written in braces. -/
  | braces
  /-- Named on the way of a dotted key. -/
  | dotted
  /-- Named by a header. -/
  | header
  /-- Passed through on the way of a header. -/
  | passed
  deriving DecidableEq, Repr

/-- A TOML value. Floats and dates are kept as they are spelled. -/
inductive Toml
  | text (s : String)
  | integer (n : Int)
  | float (spelling : String)
  | boolean (b : Bool)
  | moment (spelling : String)
  | array (items : List Toml)
  | table (origin : Origin) (entries : List (String × Toml))
  /-- The tables under headers in double brackets. -/
  | tables (elements : List (List (String × Toml)))

namespace Toml

/-- The keys of a table with their values. -/
abbrev Entries := List (String × Toml)

/-- The value of a key. -/
def Entries.get? (es : Entries) (key : String) : Option Toml :=
  (es.find? (·.1 == key)).map (·.2)

/-- The entries with another value for a key that has one. -/
def Entries.replace (es : Entries) (key : String) (v : Toml) : Entries :=
  es.map fun e => if e.1 == key then (key, v) else e

/-! ## Adding to a document -/

/-- Change the table at the end of a path with `act`, which is given the table's origin and
entries. The path stands in a dotted key or in a header: a dotted key may not pass through a table
that has a header. -/
def edit (byDots : Bool) (act : Origin → Entries → Option Entries) :
    List String → Origin → Entries → Option Entries
  | [], origin, es => act origin es
  | key :: path, _, es =>
    match es.get? key with
    | none => do
      let origin := if byDots then .dotted else .passed
      let inner ← edit byDots act path origin []
      return es ++ [(key, .table origin inner)]
    | some (.table origin inner) =>
      if origin == .braces || (byDots && origin == .header) then none
      else do
        let inner ← edit byDots act path origin inner
        return es.replace key (.table origin inner)
    | some (.tables elements) => do
      let inner ← edit byDots act path .header (← elements.getLast?)
      return es.replace key (.tables (elements.dropLast ++ [inner]))
    | some _ => none

/-- Give a key a value; it must have none. -/
def define (key : String) (v : Toml) (es : Entries) : Option Entries :=
  if (es.get? key).isSome then none else some (es ++ [(key, v)])

/-- Give a dotted key a value. A table that the key passes into last must be made by dotted
keys. -/
def assign (path : List String) (key : String) (v : Toml) :
    Origin → Entries → Option Entries :=
  edit true (fun origin es =>
    if path.isEmpty || origin == .dotted then define key v es else none) path

/-- Open the table of a header. -/
def openTable (path : List String) (key : String) (es : Entries) : Option Entries :=
  edit false (fun _ es =>
    match es.get? key with
    | none => some (es ++ [(key, .table .header [])])
    | some (.table .passed inner) => some (es.replace key (.table .header inner))
    | some _ => none) path .header es

/-- Open one more table of a header in double brackets. -/
def openElement (path : List String) (key : String) (es : Entries) : Option Entries :=
  edit false (fun _ es =>
    match es.get? key with
    | none => some (es ++ [(key, .tables [[]])])
    | some (.tables elements) => some (es.replace key (.tables (elements ++ [[]])))
    | some _ => none) path .header es

/-! ## Reading a value -/

/-- The text of a string. -/
def text? : Toml → Option String
  | .text s => some s
  | _ => none

/-- The truth value of a boolean. -/
def boolean? : Toml → Option Bool
  | .boolean b => some b
  | _ => none

/-- A natural number. -/
def nat? : Toml → Option Nat
  | .integer (.ofNat n) => some n
  | _ => none

/-- The texts of an array of strings. -/
def texts? : Toml → Option (List String)
  | .array items => items.mapM text?
  | _ => none

/-- The fields of a record, one place per name. A record is a table, in which other keys are
ignored, or an array of its fields in order, of which surplus items are ignored. A date counts as
a record with no field given. -/
def fields? (names : List String) : Toml → Option (List (Option Toml))
  | .table _ es => some (names.map (Entries.get? es))
  | .array items => some ((List.range names.length).map (items[·]?))
  | .tables elements =>
    some ((List.range names.length).map fun i => (elements[i]?).map (.table .header))
  | .moment _ => some (names.map fun _ => none)
  | _ => none

/-- Read a field that has a default. -/
def withDefault {α : Type} (default : α) (read : Toml → Option α) : Option Toml → Option α
  | none => some default
  | some v => read v

end Toml

end Interpose
