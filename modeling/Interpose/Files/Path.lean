import Interpose.Bytes

/-!
# Paths as texts

A path is kept as the text that a user or the program gave, since that is how it is shown. Joining
puts a slash between two paths unless one is there, and a path that starts at the root replaces
what it is joined to.
-/

namespace Interpose.Path

/-- Whether a path starts at the root. -/
def isRooted (path : String) : Bool := path.toList.head? == some '/'

/-- A path below another. -/
def join (base below : String) : String :=
  if isRooted below || base = "" then below
  else if base.toList.getLast? = some '/' then base ++ below
  else base ++ "/" ++ below

/-- The steps of a path; a step of one dot stays where it is. -/
def steps (path : String) : List String :=
  (splitText '/' path).filter fun s => s ≠ "" && s ≠ "."

/-- The name of the last step, unless that step leads up or there is none. -/
def fileName? (path : String) : Option String :=
  match (steps path).getLast? with
  | some ".." => none
  | last => last

/-- A reversed path without slashes and steps of one dot at its end. -/
def trimEnd : List Char → List Char
  | '/' :: c :: rest => trimEnd (c :: rest)
  | ['.', '/'] => ['/']
  | '.' :: '/' :: c :: rest => trimEnd (c :: rest)
  | s => s

/-- The path without its last step, unless it has none. -/
def parent? (path : String) : Option String :=
  match trimEnd path.toList.reverse with
  | [] => none
  | ['/'] => none
  | s => some (String.ofList (trimEnd (s.dropWhile (· != '/'))).reverse)

end Interpose.Path
