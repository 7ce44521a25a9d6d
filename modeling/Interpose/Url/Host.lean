import Interpose.Url.DomainName
import Interpose.Url.Percent

/-!
# Hosts of URLs

The host of a URL is an IPv6 address in brackets, an IPv4 address, a domain name in ASCII, or, when
the scheme is not a special one, an opaque text. Each has one written form: numbers of an IPv4
address may be octal, hexadecimal or run together on the way in and are four decimal bytes on the
way out, and the longest run of zeros of an IPv6 address is left out.
-/

namespace Interpose.Host

/-! ## IPv4 addresses -/

/-- The value of a digit in a base up to 16. -/
def digit? (base : Nat) (c : Char) : Option Nat :=
  let value :=
    if '0' ≤ c ∧ c ≤ '9' then c.toNat - 0x30
    else if 'a' ≤ c ∧ c ≤ 'f' then c.toNat - 0x61 + 10
    else if 'A' ≤ c ∧ c ≤ 'F' then c.toNat - 0x41 + 10
    else 16
  if value < base then some value else none

/-- A number in a base, added to the digits read so far. -/
def number? (base acc : Nat) : List Char → Option Nat
  | [] => some acc
  | c :: rest =>
    match digit? base c with
    | some d => number? base (acc * base + d) rest
    | none => none

/-- A part of an IPv4 address: hexadecimal after `0x`, octal after `0`, else decimal. -/
def ipv4Part? : List Char → Option Nat
  | [] => none
  | '0' :: 'x' :: rest => number? 16 0 rest
  | '0' :: 'X' :: rest => number? 16 0 rest
  | '0' :: c :: rest => number? 8 0 (c :: rest)
  | s => number? 10 0 s

/-- The parts of a name; a final dot is no part. -/
def nameParts (s : List Char) : List (List Char) :=
  let parts := s.splitOn '.'
  if parts.getLast? = some [] then parts.dropLast else parts

/-- Whether a name can only be an IPv4 address: its last part is a number. -/
def endsInNumber (s : List Char) : Bool :=
  match (nameParts s).getLast? with
  | none => false
  | some last =>
    !last.isEmpty && (last.all (fun c => (digit? 10 c).isSome) || (ipv4Part? last).isSome)

/-- The value of an IPv4 address: all parts but the last are bytes, and the last fills the rest. -/
def ipv4? (s : List Char) : Option Nat :=
  match (nameParts s).mapM ipv4Part? with
  | none => none
  | some numbers =>
    match numbers.reverse with
    | [] => none
    | last :: bytes =>
      if bytes.length < 4 && bytes.all (· < 256) && last < Nat.pow 256 (4 - bytes.length) then
        some (bytes.reverse.foldl (fun acc b => acc * 256 + b) 0 * Nat.pow 256 (4 - bytes.length) + last)
      else none

/-- The written form of an IPv4 address. -/
def ipv4Text (n : Nat) : String :=
  ".".intercalate ([n / 16777216, n / 65536 % 256, n / 256 % 256, n % 256].map toString)

/-! ## IPv6 addresses -/

/-- A group of an IPv6 address: one to four hexadecimal digits. -/
def group? (s : List Char) : Option Nat :=
  if s.isEmpty || 4 < s.length then none else number? 16 0 s

/-- A byte of an IPv4 address inside an IPv6 one: decimal without leading zeros. -/
def byte? (s : List Char) : Option Nat :=
  match s with
  | [] => none
  | '0' :: _ :: _ => none
  | s =>
    match number? 10 0 s with
    | some n => if n < 256 then some n else none
    | none => none

/-- The groups of a list of parts, of which the last may be an IPv4 address. -/
def groups? : List (List Char) → Option (List Nat)
  | [] => some []
  | [s] =>
    match group? s with
    | some g => some [g]
    | none =>
      match (s.splitOn '.').mapM byte? with
      | some [a, b, c, d] => some [a * 256 + b, c * 256 + d]
      | _ => none
  | s :: rest =>
    match group? s, groups? rest with
    | some g, some gs => some (g :: gs)
    | _, _ => none

/-- The groups of a text with colons between; the empty text has none. -/
def colonGroups? (s : List Char) : Option (List Nat) :=
  if s.isEmpty then some [] else groups? (s.splitOn ':')

/-- The text before and after the first double colon. -/
def aroundGap? (before : List Char) : List Char → Option (List Char × List Char)
  | ':' :: ':' :: rest => some (before.reverse, rest)
  | c :: rest => aroundGap? (c :: before) rest
  | [] => none

/-- The eight groups of an IPv6 address: a double colon stands for at least one zero group. Before
it no IPv4 address may stand. -/
def ipv6? (s : List Char) : Option (List Nat) :=
  match aroundGap? [] s with
  | none =>
    match colonGroups? s with
    | some gs => if gs.length = 8 then some gs else none
    | none => none
  | some (left, right) =>
    if left.contains '.' then none
    else
      match colonGroups? left, colonGroups? right with
      | some ls, some rs =>
        if ls.length + rs.length < 8 then
          some (ls ++ List.replicate (8 - ls.length - rs.length) 0 ++ rs)
        else none
      | _, _ => none

/-- The digits of a group. -/
def groupText (g : Nat) : List Char := Nat.toDigits 16 g

/-- The place and length of the longest run of zeros, the first of equals; `run` is the length of
the run that ends before place `i`, and `best` the longest so far. -/
def longestZeros (i run : Nat) (best : Nat × Nat) : List Nat → Nat × Nat
  | [] => best
  | g :: rest =>
    if g = 0 then
      let best := if best.2 < run + 1 then (i - run, run + 1) else best
      longestZeros (i + 1) (run + 1) best rest
    else longestZeros (i + 1) 0 best rest

/-- The written form of an IPv6 address. -/
def ipv6Text (groups : List Nat) : String :=
  let join (gs : List Nat) : List Char := [':'].intercalate (gs.map groupText)
  let (at_, length) := longestZeros 0 0 (0, 0) groups
  let inner :=
    if length < 2 then join groups
    else join (groups.take at_) ++ ':' :: ':' :: join (groups.drop (at_ + length))
  String.ofList ('[' :: inner ++ [']'])

/-- An address in brackets. -/
def bracketed? (s : List Char) : Option String :=
  if s.getLast? = some ']' && 1 < s.length then (ipv6? (s.drop 1).dropLast).map ipv6Text else none

/-! ## Hosts -/

/-- Whether a character may not stand in an opaque host. -/
def isForbidden (c : Char) : Bool :=
  "\x00\t\n\r #/:<>?@[\\]^|".toList.contains c

/-- An opaque host: control characters and those beyond ASCII are encoded. -/
def plainText? (s : List Char) : Option String :=
  if s.head? = some '[' then bracketed? s
  else if s.any isForbidden then none
  else some (String.ofList (Percent.encode Percent.inOpaque s))

/-- The host of a URL with a special scheme. -/
def special? (s : List Char) : Option String :=
  if s.head? = some '[' then bracketed? s
  else
    match Utf8.decode? (Percent.decode (s.flatMap String.utf8EncodeChar)) with
    | none => none
    | some name =>
      match DomainName.toAscii? name.toList with
      | none => none
      | some [] => none
      | some ascii =>
        if endsInNumber ascii then (ipv4? ascii).map ipv4Text else some (String.ofList ascii)

end Interpose.Host
