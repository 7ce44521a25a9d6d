import Interpose.Text.Utf8

/-!
# JSON values

A value keeps what its text says in the order in which the text says it: members of an object may
repeat a name, and a number remembers whether a fraction or exponent was written.

A string literal can be grammatical and still spell no text, through an escape of half a surrogate
pair or bytes that are not UTF-8. Such a literal is kept as `none`: it may stand where a value is
skipped, and is refused where a value is read (`Json.sound`).
-/

namespace Interpose

/-- A number as written: an integer literal, or a decimal mantissa with a power of ten. -/
inductive Numeral
  | whole (negative : Bool) (magnitude : Nat)
  | scaled (negative : Bool) (mantissa : Nat) (exponent : Int)
  deriving DecidableEq, Repr

/-- A JSON value. -/
inductive Json
  | null
  | bool (b : Bool)
  | number (n : Numeral)
  | string (s : Option String)
  | array (items : List Json)
  | object (members : List (Option String × Json))

namespace Json

/-- A string value. -/
def text (s : String) : Json := .string (some s)

/-- A natural number. -/
def nat (n : Nat) : Json := .number (.whole false n)

/-- An object with the given members, in order. -/
def record (members : List (String × Json)) : Json :=
  .object (members.map fun (name, value) => (some name, value))

/-- The text of an optional value, or `null`. -/
def textOrNull : Option String → Json
  | none => .null
  | some s => text s

/-! ## Reading a value -/

/-- The text of a string. -/
def text? : Json → Option String
  | .string s => s
  | _ => none

/-- The truth value of a boolean. -/
def bool? : Json → Option Bool
  | .bool b => some b
  | _ => none

/-- A natural number below `bound`, written as an integer. Minus zero is no integer. -/
def natBelow? (bound : Nat) : Json → Option Nat
  | .number (.whole false n) => if n < bound then some n else none
  | _ => none

/-- An optional value: `null` stands for none. -/
def optional? {α : Type} (read : Json → Option α) : Json → Option (Option α)
  | .null => some none
  | v => (read v).map some

/-- A list of values. -/
def list? {α : Type} (read : Json → Option α) : Json → Option (List α)
  | .array items => items.mapM read
  | _ => none

/-- The members of an object. -/
def members? : Json → Option (List (Option String × Json))
  | .object members => some members
  | _ => none

/-- The first member of an object with the given name. -/
def get? (name : String) : Json → Option Json
  | .object members => (members.find? (·.1 == some name)).map (·.2)
  | _ => none

/-- The fields of a record, one place per name, each filled at most once. A record may be given as
an object, in which other names are ignored, or as an array of its leading fields in order. -/
def fields? (names : List String) : Json → Option (List (Option Json))
  | .object members =>
    if members.any (·.1.isNone) then none
    else names.mapM fun name =>
      match members.filter (·.1 == some name) with
      | [] => some none
      | [m] => some (some m.2)
      | _ => none
  | .array items =>
    if items.length ≤ names.length then
      some (items.map some ++ List.replicate (names.length - items.length) none)
    else none
  | _ => none

/-- Read a field that must be present. -/
def required {α : Type} (read : Json → Option α) (field : Option Json) : Option α :=
  field.bind read

/-- Read a field that has a default. -/
def withDefault {α : Type} (default : α) (read : Json → Option α) : Option Json → Option α
  | none => some default
  | some v => read v

/-! ## Values that can be read whole -/

/-- The least number that rounds to no finite double-precision float. -/
def doubleBound : Nat := Nat.pow 2 1024 - Nat.pow 2 970

/-- Whether a number is too large for a double-precision float. -/
def exceedsDouble : Numeral → Bool
  | .whole _ n => decide (doubleBound ≤ n)
  | .scaled _ m e =>
    if m = 0 then false
    else
      let size := (Nat.toDigits 10 m).length + e
      if size > 310 then true
      else if size < 300 then false
      else if 0 ≤ e then decide (doubleBound ≤ m * Nat.pow 10 e.toNat)
      else decide (doubleBound * Nat.pow 10 (-e).toNat ≤ m)

mutual

/-- Whether every string of a value spells a text, every number is finite, and containers nest
less than `depth` deep. -/
def sound : Nat → Json → Bool
  | _, .null => true
  | _, .bool _ => true
  | _, .number n => !exceedsDouble n
  | _, .string s => s.isSome
  | depth, .array items => 1 < depth && soundItems (depth - 1) items
  | depth, .object members => 1 < depth && soundMembers (depth - 1) members

/-- `sound` for each item of an array. -/
def soundItems : Nat → List Json → Bool
  | _, [] => true
  | depth, v :: rest => sound depth v && soundItems depth rest

/-- `sound` for each member of an object, names included. -/
def soundMembers : Nat → List (Option String × Json) → Bool
  | _, [] => true
  | depth, (name, v) :: rest => name.isSome && sound depth v && soundMembers depth rest

end

end Json

end Interpose
