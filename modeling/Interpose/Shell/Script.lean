import Interpose.Bytes

/-!
# Shell scripts

The commands of a script and the words in them. A word is a list of parts; each part remembers
whether it was quoted, since a quoted part is never split into fields and never acts as a pattern.
-/

namespace Interpose.Shell

/-- What an expansion makes of a parameter. The flag of the middle four says whether an empty
value counts as none. -/
inductive Use
  | value
  | length
  | orElse (orEmpty : Bool)
  | orAssign (orEmpty : Bool)
  | instead (orEmpty : Bool)
  | orFail (orEmpty : Bool)
  | dropFront (longest : Bool)
  | dropBack (longest : Bool)
  deriving DecidableEq, Repr

/-- Where a redirection goes. -/
inductive Direction
  | input
  | output
  | append
  /-- The same place as another descriptor. -/
  | same
  deriving DecidableEq, Repr

mutual

/-- A part of a word. -/
inductive Part
  | text (quoted : Bool) (s : String)
  | parameter (quoted : Bool) (name : String) (use : Use) (word : List Part)
  | output (quoted : Bool) (c : Command)
  | sum (quoted : Bool) (expression : List Part)

/-- A command. -/
inductive Command
  | nothing
  | simple (assignments : List (String × List Part)) (words : List (List Part))
  | redirected (c : Command) (redirections : List (Nat × Direction × List Part))
  | sequence (a b : Command)
  | both (a b : Command)
  | either (a b : Command)
  | negated (c : Command)
  | pipe (stages : List Command)
  | apart (c : Command)
  | branch (condition yes no : Command)
  | loop (untilTrue : Bool) (condition body : Command)
  | each (name : String) (words : Option (List (List Part))) (body : Command)
  | select (word : List Part) (arms : List (List (List Part) × Command))
  | define (name : String) (body : Command)

end

/-- A word. -/
abbrev Word := List Part

/-- A redirection: the descriptor, where it goes, and the word that names the place. -/
abbrev Redirection := Nat × Direction × Word

end Interpose.Shell
