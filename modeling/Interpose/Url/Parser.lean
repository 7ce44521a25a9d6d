import Interpose.Url.Host

/-!
# URLs

`Url.parse?` reads an absolute URL in the lenient way of browsers: blanks around it and tabs and
line breaks in it are dropped, letter case of the scheme and of a special host is folded, and each
part is brought into its one written form. The pieces are read from the front: scheme, authority,
path, query.

The path is built as text, segment by segment. A segment of two dots takes the one before it away,
a segment of one dot nothing; a path is never shortened past its root, nor past a drive letter.
-/

namespace Interpose

/-- The parts of a URL that requests are keyed by. -/
structure Url where
  scheme : String
  host : Option String
  path : String
  query : Option String
  deriving DecidableEq, Repr

namespace Url

/-- How a scheme is treated: special schemes have a host and a hierarchical path. -/
inductive SchemeKind
  | file
  | special
  | other
  deriving DecidableEq

/-- The kind of a scheme. -/
def schemeKind (scheme : String) : SchemeKind :=
  if scheme = "file" then .file
  else if ["http", "https", "ws", "wss", "ftp"].contains scheme then .special
  else .other

namespace SchemeKind

/-- Whether a backslash separates as a slash does. -/
def slashesBack (k : SchemeKind) : Bool := k != .other

end SchemeKind

/-- Whether a character ends an authority or a path segment. -/
def isSlash (k : SchemeKind) (c : Char) : Bool := c == '/' || (k.slashesBack && c == '\\')

/-- Whether a character ends a path. -/
def endsPath (c : Char) : Bool := c == '?' || c == '#'

/-- Whether a character ends an authority. -/
def endsAuthority (k : SchemeKind) (c : Char) : Bool := isSlash k c || endsPath c

/-! ## Drive letters -/

/-- Whether a text starts with a drive letter that ends at a slash, a mark or the end. -/
def startsWithDrive : List Char → Bool
  | c :: d :: rest =>
    c.isAlpha && (d == ':' || d == '|') &&
      match rest with
      | [] => true
      | e :: _ => e == '/' || e == '\\' || e == '?' || e == '#'
  | _ => false

/-- Whether a segment is a drive letter. -/
def isDrive (s : List Char) : Bool := s.length == 2 && startsWithDrive s

/-- Whether a segment is a drive letter in its one written form. -/
def isPlainDrive (s : List Char) : Bool := isDrive s && s.getLast? == some ':'

/-! ## Paths

A path under construction is kept last character first. -/

/-- Whether a segment is one dot, possibly encoded. -/
def isDot (s : List Char) : Bool := s == ['.'] || s.map Char.toLower == "%2e".toList

/-- Whether a segment is two dots, possibly encoded. -/
def isDoubleDot (s : List Char) : Bool :=
  ["..", "%2e.", ".%2e", "%2e%2e"].any fun t => t.toList == s.map Char.toLower

/-- Drop the slash at the end of a path before shortening it, unless it is the root's or stands
after a drive letter. -/
def dropEndSlash : List Char → List Char
  | '/' :: rest =>
    let segment := (rest.takeWhile (· != '/')).reverse
    if rest.contains '/' && !startsWithDrive (segment ++ ['/']) then rest else '/' :: rest
  | path => path

/-- Take the last segment of a path away, except a drive letter of a file. -/
def shorten (k : SchemeKind) (path : List Char) : List Char :=
  let segment := (path.takeWhile (· != '/')).reverse
  if k == .file && isPlainDrive segment then path else path.dropWhile (· != '/')

/-- Add a segment, and its slash if there is one, to a path. -/
def addSegment (k : SchemeKind) (path segment : List Char) (slash : Bool) : List Char :=
  let ending := if slash then ['/'] else []
  if isDoubleDot segment then
    let shorter := shorten k (dropEndSlash path)
    if slash && shorter.head? != some '/' then '/' :: shorter else shorter
  else if isDot segment then
    if path.head? == some '/' then path else '/' :: path
  else if k == .file && path == ['/'] && isDrive segment then
    ending ++ ':' :: segment.head?.toList ++ path
  else ending ++ segment.reverse ++ path

/-- Read the segments of a path, up to the query or fragment. `segment` holds the characters of
the segment that is being read, last first and encoded. -/
def readPath (k : SchemeKind) (path segment : List Char) : List Char → List Char × List Char
  | [] => (addSegment k path segment.reverse false, [])
  | c :: rest =>
    if isSlash k c then readPath k (addSegment k path segment.reverse true) [] rest
    else if endsPath c then (addSegment k path segment.reverse false, c :: rest)
    else readPath k path ((Percent.encodeChar Percent.inPath c).reverse ++ segment) rest

/-- A path read on from the given beginning, and what follows it. A file's path starts with
exactly one slash. -/
def pathFrom (k : SchemeKind) (start input : List Char) : String × List Char :=
  let (path, rest) := readPath k start [] input
  let path := path.reverse
  let path := if k == .file then '/' :: path.dropWhile (· == '/') else path
  (String.ofList path, rest)

/-- Whether the path after an authority starts at a drive. -/
def startsAtDrive (k : SchemeKind) : List Char → Bool
  | [] => false
  | c :: rest =>
    isSlash k c &&
      isPlainDrive (((readPath k ['/'] [] rest).1.reverse.drop 1).takeWhile (· != '/'))

/-- The path after an authority. A special URL has a path at least of one slash. -/
def pathAfterHost (k : SchemeKind) (input : List Char) : String × List Char :=
  match k, input with
  | .other, [] => ("", [])
  | .other, '/' :: _ => pathFrom k [] input
  | .other, c :: _ => if endsPath c then ("", input) else pathFrom k ['/'] input
  | _, c :: rest => if isSlash k c then pathFrom k ['/'] rest else pathFrom k ['/'] input
  | _, [] => pathFrom k ['/'] []

/-- The path of a URL that has no hierarchy. -/
def opaquePath (input : List Char) : String × List Char :=
  let path := input.takeWhile fun c => !endsPath c
  (String.ofList (Percent.encode Percent.inOpaque path), input.dropWhile fun c => !endsPath c)

/-! ## Authorities -/

/-- The user information of an authority, up to its last `@`, and what follows; none without. -/
def splitUser (k : SchemeKind) (input : List Char) : Option (List Char) × List Char :=
  let authority := input.takeWhile fun c => !endsAuthority k c
  if authority.contains '@' then
    let host := (authority.reverse.takeWhile (· != '@')).reverse
    let user := (authority.reverse.dropWhile (· != '@')).reverse.dropLast
    (some user, host ++ input.drop authority.length)
  else (none, input)

/-- Whether user information names a user or a password. -/
def namesUser (user : List Char) : Bool := !(user.isEmpty || user == [':'])

/-- The text of a host, up to a colon outside brackets, a slash, the query or the fragment. -/
def takeHost (k : SchemeKind) (inside : Bool) : List Char → List Char × List Char
  | [] => ([], [])
  | c :: rest =>
    if (c == ':' && !inside) || endsAuthority k c then ([], c :: rest)
    else
      let inside := if c == '[' then true else if c == ']' then false else inside
      let (host, rest) := takeHost k inside rest
      (c :: host, rest)

/-- What follows the number after a colon; none if it is no number below 65536. -/
def skipNumber? (acc : Nat) : List Char → Option (List Char)
  | [] => some []
  | c :: rest =>
    if c.isDigit then
      let acc := acc * 10 + (c.toNat - 0x30)
      if acc < 65536 then skipNumber? acc rest else none
    else if c == '/' || c == '\\' || endsPath c then some (c :: rest)
    else none

/-- The host of an authority and what follows the authority. -/
def authority? (k : SchemeKind) (input : List Char) : Option (Option String × List Char) :=
  let (user, afterUser) := splitUser k input
  let missing := user == some [] && (afterUser.head?.map (endsAuthority k)).getD false
  let (hostText, afterHost) := takeHost k false afterUser
  let host := match k with
    | .other => Host.plainText? hostText
    | _ => Host.special? hostText
  match host with
  | none => none
  | some host =>
    let absent := host == ""
    let named := (user.map namesUser).getD false
    if missing || (absent && (named || afterHost.head? == some ':')) then none
    else
      let shown := if absent then none else some host
      match afterHost with
      | ':' :: rest => (skipNumber? 0 rest).map (shown, ·)
      | rest => some (shown, rest)

/-! ## Whole URLs -/

/-- The host and path of a file URL after its scheme. -/
def fileParts? (k : SchemeKind) (input : List Char) :
    Option (Option String × String × List Char) :=
  let rooted (input : List Char) := (none, pathFrom k ['/'] input)
  match input with
  | c :: rest =>
    if isSlash k c then
      match rest with
      | d :: afterSlashes =>
        if isSlash k d then
          let hostText := afterSlashes.takeWhile fun c => !endsAuthority k c
          let afterHost := afterSlashes.drop hostText.length
          if hostText.isEmpty || isDrive hostText then some (rooted afterSlashes)
          else
            match Host.special? hostText with
            | none => none
            | some "localhost" => some (rooted afterHost)
            | some host =>
              let path := pathAfterHost k afterHost
              let onDrive := startsAtDrive k afterHost
              some (if onDrive then none else some host, path)
        else some (none, pathFrom k [] input)
      | [] => some (none, pathFrom k [] input)
    else some (rooted input)
  | [] => some (rooted [])

/-- The host and path of a URL after its scheme. -/
def parts? (k : SchemeKind) (input : List Char) : Option (Option String × String × List Char) :=
  match k with
  | .file => fileParts? k input
  | .special =>
    let input := input.dropWhile (isSlash k)
    (authority? k input).map fun (host, rest) => (host, pathAfterHost k rest)
  | .other =>
    match input with
    | '/' :: '/' :: input =>
      (authority? k input).map fun (host, rest) => (host, pathAfterHost k rest)
    | '/' :: input => some (none, pathFrom k ['/'] input)
    | input => some (none, opaquePath input)

/-- The query of a URL, from what follows the path. -/
def queryOf (k : SchemeKind) : List Char → Option String
  | '?' :: rest =>
    let set := if k == .other then Percent.inQuery else Percent.inSpecialQuery
    some (String.ofList (Percent.encode set (rest.takeWhile (· != '#'))))
  | _ => none

/-- A scheme in lower case, and what follows its colon. -/
def scheme? (input : List Char) : Option (String × List Char) :=
  match input with
  | [] => none
  | first :: _ =>
    let isSchemeChar (c : Char) : Bool := c.isAlphanum || c == '+' || c == '-' || c == '.'
    let scheme := input.takeWhile isSchemeChar
    match first.isAlpha, input.dropWhile isSchemeChar with
    | true, ':' :: rest => some (String.ofList (scheme.map Char.toLower), rest)
    | _, _ => none

/-- A URL without what reading ignores: blanks and control characters around it, and tabs and line
breaks anywhere. -/
def cleaned (text : String) : List Char :=
  let isEdge (c : Char) : Bool := c.toNat ≤ 0x20
  let inner := ((text.toList.dropWhile isEdge).reverse.dropWhile isEdge).reverse
  inner.filter fun c => c != '\t' && c != '\n' && c != '\r'

/-- Read an absolute URL. -/
def parse? (text : String) : Option Url :=
  match scheme? (cleaned text) with
  | none => none
  | some (scheme, rest) =>
    let k := schemeKind scheme
    match parts? k rest with
    | none => none
    | some (host, path, rest) => some ⟨scheme, host, path, queryOf k rest⟩

/-- The segments of the path; none when the path has no hierarchy. -/
def segments (u : Url) : List String :=
  match u.path.toList with
  | '/' :: rest => (rest.splitOn '/').map String.ofList
  | _ => []

end Url

end Interpose
