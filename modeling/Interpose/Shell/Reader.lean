import Interpose.Shell.Script

/-!
# Reading shell scripts

The reader works on characters, since what ends a word depends on where it stands. Every function
takes fuel, of which each call inside passes on less; a script's length gives enough of it. `none`
stands for a script that is not well formed.
-/

namespace Interpose.Shell

/-- A reader takes something off the front of a text and hands back the rest. -/
abbrev Reads (α : Type) := List Char → Option (α × List Char)

/-! ## Characters -/

/-- A character that ends a word. -/
def isMeta (c : Char) : Bool := " \t\n;&|<>()".toList.contains c

/-- A character that starts a name. -/
def isNameStart (c : Char) : Bool := c.isAlpha || c == '_'

/-- A character of a name. -/
def isNameChar (c : Char) : Bool := c.isAlphanum || c == '_'

/-- A parameter named by one character. -/
def isSpecial (c : Char) : Bool := c.isDigit || "@*#?-$!".toList.contains c

/-- Skip blanks, line breaks after a backslash, and a comment. -/
def skipBlanks : List Char → List Char
  | '\\' :: '\n' :: rest => skipBlanks rest
  | ' ' :: rest => skipBlanks rest
  | '\t' :: rest => skipBlanks rest
  | '#' :: rest => rest.dropWhile (· != '\n')
  | s => s

/-- Skip blanks, comments and line breaks. -/
def skipLines (inComment : Bool) : List Char → List Char
  | [] => []
  | '\n' :: rest => skipLines false rest
  | '\\' :: '\n' :: rest => skipLines inComment rest
  | c :: rest =>
    if inComment then skipLines true rest
    else if c == ' ' || c == '\t' then skipLines false rest
    else if c == '#' then skipLines true rest
    else c :: rest

/-- The characters up to the end of a word, if none of them is a quote or starts an expansion. -/
def bare (s : List Char) : String :=
  let word := s.takeWhile fun c => !isMeta c
  if word.any fun c => "'\"\\$`".toList.contains c then "" else String.ofList word

/-- The words that end a list of commands. -/
def closers : List String := ["then", "else", "elif", "fi", "do", "done", "esac", "\x7d"]

/-- Take a reserved word off the front, after blanks and line breaks. -/
def keyword? (word : String) (s : List Char) : Option (List Char) :=
  let s := skipLines false s
  if bare s == word then some (s.drop word.length) else none

/-- Take a character off the front, after blanks and line breaks. -/
def mark? (c : Char) (s : List Char) : Option (List Char) :=
  match skipLines false s with
  | d :: rest => if c == d then some rest else none
  | [] => none

/-- The text of a sum up to its two closing parentheses. -/
def sumText? (depth : Nat) (done : List Char) : Reads (List Char)
  | ')' :: ')' :: rest =>
    if depth = 0 then some (done.reverse, rest)
    else sumText? (depth - 1) (')' :: done) (')' :: rest)
  | ')' :: rest => if depth = 0 then none else sumText? (depth - 1) (')' :: done) rest
  | '(' :: rest => sumText? (depth + 1) ('(' :: done) rest
  | c :: rest => sumText? depth (c :: done) rest
  | [] => none

/-- The text between backquotes, without the backslashes that protect it. -/
def backquoted? (done : List Char) : Reads (List Char)
  | '`' :: rest => some (done.reverse, rest)
  | '\\' :: c :: rest =>
    if c == '`' || c == '\\' || c == '$' then backquoted? (c :: done) rest
    else backquoted? (c :: '\\' :: done) rest
  | c :: rest => backquoted? (c :: done) rest
  | [] => none

/-- What stands between a parameter's name and the closing brace: the use, and what follows. -/
def use? : Reads Use
  | ':' :: '-' :: rest => some (.orElse true, rest)
  | ':' :: '=' :: rest => some (.orAssign true, rest)
  | ':' :: '+' :: rest => some (.instead true, rest)
  | ':' :: '?' :: rest => some (.orFail true, rest)
  | '-' :: rest => some (.orElse false, rest)
  | '=' :: rest => some (.orAssign false, rest)
  | '+' :: rest => some (.instead false, rest)
  | '?' :: rest => some (.orFail false, rest)
  | '#' :: '#' :: rest => some (.dropFront true, rest)
  | '#' :: rest => some (.dropFront false, rest)
  | '%' :: '%' :: rest => some (.dropBack true, rest)
  | '%' :: rest => some (.dropBack false, rest)
  | '\x7d' :: rest => some (.value, '\x7d' :: rest)
  | _ => none

/-- The name of a parameter. -/
def name? : Reads String
  | c :: rest =>
    if isNameStart c then
      let more := rest.takeWhile isNameChar
      some (String.ofList (c :: more), rest.drop more.length)
    else if c.isDigit then
      let more := rest.takeWhile Char.isDigit
      some (String.ofList (c :: more), rest.drop more.length)
    else if isSpecial c then some (c.toString, rest)
    else none
  | [] => none

/-- The digits before a redirection, its direction, and what follows. -/
def direction? (s : List Char) : Option (Option Nat × Direction × List Char) :=
  let digits := s.takeWhile Char.isDigit
  let number := if digits.isEmpty then none else (String.ofList digits).toNat?
  match s.drop digits.length with
  | '>' :: '>' :: rest => some (number, .append, rest)
  | '>' :: '&' :: rest => some (number, .same, rest)
  | '<' :: '&' :: rest => some (some (number.getD 0), .same, rest)
  | '>' :: '|' :: rest => some (number, .output, rest)
  | '>' :: rest => some (number, .output, rest)
  | '<' :: rest => some (some (number.getD 0), .input, rest)
  | _ => none

/-- The name that a word assigns to, and the value. -/
def assignment? : Word → Option (String × Word)
  | .text false s :: rest =>
    match s.toList.span (· != '=') with
    | (name, _ :: value) =>
      match name with
      | c :: more =>
        if isNameStart c && more.all isNameChar then
          some (String.ofList name, .text false (String.ofList value) :: rest)
        else none
      | [] => none
    | _ => none
  | _ => none

/-- A command with redirections, if there are any. -/
def Command.with (c : Command) (rs : List Redirection) : Command :=
  if rs.isEmpty then c else .redirected c rs

/-! ## Words and commands -/

mutual

/-- Read an unquoted word up to a character that ends it. -/
def word? : Nat → (Char → Bool) → Word → Reads Word
  | 0, _, _, _ => none
  | fuel + 1, ends, done, s =>
    match s with
    | [] => some (done.reverse, [])
    | c :: rest =>
      if ends c then some (done.reverse, s)
      else match c with
      | '\'' =>
        match rest.span (· != '\'') with
        | (_, []) => none
        | (inside, _ :: rest) => word? fuel ends (.text true (String.ofList inside) :: done) rest
      | '"' => do
        let (parts, rest) ← quoted? fuel (some '"') [] rest
        word? fuel ends (parts.reverse ++ .text true "" :: done) rest
      | '\\' =>
        match rest with
        | [] => some ((.text true "\\" :: done).reverse, [])
        | '\n' :: rest => word? fuel ends done rest
        | d :: rest => word? fuel ends (.text true d.toString :: done) rest
      | '$' => do
        let (part, rest) ← dollar? fuel false rest
        word? fuel ends (part :: done) rest
      | '`' => do
        let (inside, rest) ← backquoted? [] rest
        let (c, _) ← commands? fuel inside
        word? fuel ends (.output false c :: done) rest
      | _ =>
        let run := s.takeWhile fun c => !(ends c || "'\"\\$`".toList.contains c)
        word? fuel ends (.text false (String.ofList run) :: done) (s.drop run.length)

/-- Read quoted text up to a closing character, or to the end. -/
def quoted? : Nat → Option Char → Word → Reads Word
  | 0, _, _, _ => none
  | fuel + 1, close, done, s =>
    match s with
    | [] => if close.isNone then some (done.reverse, []) else none
    | c :: rest =>
      if close == some c then some (done.reverse, rest)
      else match c with
      | '\\' =>
        match rest with
        | '\n' :: rest => quoted? fuel close done rest
        | d :: rest =>
          let kept := if "$`\"\\".toList.contains d || close == some d then [d] else ['\\', d]
          quoted? fuel close (.text true (String.ofList kept) :: done) rest
        | [] => quoted? fuel close (.text true "\\" :: done) []
      | '$' => do
        let (part, rest) ← dollar? fuel true rest
        quoted? fuel close (part :: done) rest
      | '`' => do
        let (inside, rest) ← backquoted? [] rest
        let (c, _) ← commands? fuel inside
        quoted? fuel close (.output true c :: done) rest
      | _ =>
        let run := s.takeWhile fun c => !(close == some c || "\\$`".toList.contains c)
        quoted? fuel close (.text true (String.ofList run) :: done) (s.drop run.length)

/-- Read an expansion after its dollar sign. -/
def dollar? : Nat → Bool → Reads Part
  | 0, _, _ => none
  | fuel + 1, quoted, s =>
    match s with
    | '(' :: '(' :: rest => do
      let (inside, rest) ← sumText? 0 [] rest
      let (parts, _) ← quoted? fuel none [] inside
      return (.sum quoted parts, rest)
    | '(' :: rest => do
      let (c, rest) ← commands? fuel rest
      return (.output quoted c, ← mark? ')' rest)
    | '\x7b' :: '#' :: c :: rest =>
      if c == '\x7d' then some (.parameter quoted "#" .value [], rest)
      else do
        let (name, rest) ← name? (c :: rest)
        return (.parameter quoted name .length [], ← mark? '\x7d' rest)
    | '\x7b' :: rest => do
      let (name, rest) ← name? rest
      let (use, rest) ← use? rest
      if quoted then
        let (parts, rest) ← quoted? fuel (some '\x7d') [] rest
        return (.parameter quoted name use parts, rest)
      else
        let (parts, rest) ← word? fuel (· == '\x7d') [] rest
        return (.parameter quoted name use parts, ← mark? '\x7d' rest)
    | c :: rest =>
      if isNameStart c then
        let more := rest.takeWhile isNameChar
        some (.parameter quoted (String.ofList (c :: more)) .value [], rest.drop more.length)
      else if isSpecial c then some (.parameter quoted c.toString .value [], rest)
      else some (.text quoted "$", s)
    | [] => some (.text quoted "$", [])

/-- Read commands up to what ends a list of them. -/
def commands? : Nat → Reads Command
  | 0, _ => none
  | fuel + 1, s => do
    let s := skipLines false s
    match s with
    | [] => return (.nothing, [])
    | ')' :: _ => return (.nothing, s)
    | ';' :: ';' :: _ => return (.nothing, s)
    | _ =>
      if closers.contains (bare s) then return (.nothing, s)
      let (first, s) ← pipeline? fuel s
      let (c, s) ← chain? fuel first s
      match skipBlanks s with
      | ';' :: ';' :: rest => return (c, ';' :: ';' :: rest)
      | ';' :: rest | '\n' :: rest | '&' :: rest => do
        let (more, rest) ← commands? fuel rest
        return (.sequence c more, rest)
      | s => return (c, s)

/-- Read what is joined to a command by `&&` and `||`. -/
def chain? : Nat → Command → Reads Command
  | 0, _, _ => none
  | fuel + 1, c, s =>
    match skipBlanks s with
    | '&' :: '&' :: rest => do
      let (next, rest) ← pipeline? fuel (skipLines false rest)
      chain? fuel (.both c next) rest
    | '|' :: '|' :: rest => do
      let (next, rest) ← pipeline? fuel (skipLines false rest)
      chain? fuel (.either c next) rest
    | s => some (c, s)

/-- Read a pipeline. -/
def pipeline? : Nat → Reads Command
  | 0, _ => none
  | fuel + 1, s => do
    let s := skipBlanks s
    if bare s == "!" then
      let (c, rest) ← pipeline? fuel (s.drop 1)
      return (.negated c, rest)
    else
      let (stages, rest) ← stages? fuel s
      match stages with
      | [c] => return (c, rest)
      | _ => return (.pipe stages, rest)

/-- Read the stages of a pipeline. -/
def stages? : Nat → Reads (List Command)
  | 0, _ => none
  | fuel + 1, s => do
    let (c, s) ← command? fuel s
    match skipBlanks s with
    | '|' :: '|' :: rest => return ([c], '|' :: '|' :: rest)
    | '|' :: rest => do
      let (more, rest) ← stages? fuel (skipLines false rest)
      return (c :: more, rest)
    | s => return ([c], s)

/-- Read a command. -/
def command? : Nat → Reads Command
  | 0, _ => none
  | fuel + 1, s => do
    let s := skipBlanks s
    match bare s with
    | "\x7b" => do
      let (c, s) ← commands? fuel (s.drop 1)
      redirections? fuel c [] (← keyword? "\x7d" s)
    | "if" => do
      let (c, s) ← branch? fuel (s.drop 2)
      redirections? fuel c [] s
    | "while" => do
      let (condition, s) ← commands? fuel (s.drop 5)
      let (body, s) ← body? fuel s
      redirections? fuel (.loop false condition body) [] s
    | "until" => do
      let (condition, s) ← commands? fuel (s.drop 5)
      let (body, s) ← body? fuel s
      redirections? fuel (.loop true condition body) [] s
    | "for" => do
      let (name, s) ← name? (skipBlanks (s.drop 3))
      match keyword? "in" s with
      | some s => do
        let (words, s) ← words? fuel [] s
        let (body, s) ← body? fuel s
        redirections? fuel (.each name (some words) body) [] s
      | none => do
        let (body, s) ← body? fuel s
        redirections? fuel (.each name none body) [] s
    | "case" => do
      let (word, s) ← word? fuel isMeta [] (skipBlanks (s.drop 4))
      let (arms, s) ← arms? fuel (← keyword? "in" s)
      redirections? fuel (.select word arms) [] s
    | name =>
      match s, skipBlanks (s.drop name.length) with
      | '(' :: rest, _ => do
        let (c, s) ← commands? fuel rest
        redirections? fuel (.apart c) [] (← mark? ')' s)
      | _, '(' :: rest =>
        if name.isEmpty then none
        else do
          let (body, s) ← command? fuel (skipLines false (← mark? ')' rest))
          return (.define name body, s)
      | _, _ => simple? fuel [] [] [] s

/-- Read the words of a loop. -/
def words? : Nat → List Word → Reads (List Word)
  | 0, _, _ => none
  | fuel + 1, done, s =>
    match skipBlanks s with
    | [] => some (done.reverse, [])
    | c :: rest =>
      if isMeta c then some (done.reverse, c :: rest)
      else do
        let (word, rest) ← word? fuel isMeta [] (c :: rest)
        words? fuel (word :: done) rest

/-- Read the body of a loop. -/
def body? : Nat → Reads Command
  | 0, _ => none
  | fuel + 1, s => do
    let s := match skipLines false s with
      | ';' :: rest => rest
      | s => s
    let (body, s) ← commands? fuel (← keyword? "do" s)
    return (body, ← keyword? "done" s)

/-- Read a branch after its first word. -/
def branch? : Nat → Reads Command
  | 0, _ => none
  | fuel + 1, s => do
    let (condition, s) ← commands? fuel s
    let (yes, s) ← commands? fuel (← keyword? "then" s)
    match keyword? "elif" s, keyword? "else" s with
    | some s, _ => do
      let (no, s) ← branch? fuel s
      return (.branch condition yes no, s)
    | none, some s => do
      let (no, s) ← commands? fuel s
      return (.branch condition yes no, ← keyword? "fi" s)
    | none, none => return (.branch condition yes .nothing, ← keyword? "fi" s)

/-- Read the arms of a choice. -/
def arms? : Nat → Reads (List (List Word × Command))
  | 0, _ => none
  | fuel + 1, s =>
    match keyword? "esac" s with
    | some rest => some ([], rest)
    | none => do
      let (patterns, s) ← patterns? fuel [] ((mark? '(' s).getD s)
      let (c, s) ← commands? fuel s
      let s := match skipLines false s with
        | ';' :: ';' :: rest => rest
        | s => s
      let (more, s) ← arms? fuel s
      return ((patterns, c) :: more, s)

/-- Read the patterns of an arm. -/
def patterns? : Nat → List Word → Reads (List Word)
  | 0, _, _ => none
  | fuel + 1, done, s => do
    let (word, s) ← word? fuel isMeta [] (skipLines false s)
    match skipBlanks s with
    | '|' :: rest => patterns? fuel (word :: done) rest
    | ')' :: rest => return ((word :: done).reverse, rest)
    | _ => none

/-- Read the redirections after a compound command. -/
def redirections? : Nat → Command → List Redirection → Reads Command
  | 0, _, _, _ => none
  | fuel + 1, c, done, s =>
    match direction? (skipBlanks s) with
    | none => some (c.with done.reverse, s)
    | some (number, direction, rest) => do
      let (word, rest) ← word? fuel isMeta [] (skipBlanks rest)
      if word.isEmpty then none
      else redirections? fuel c ((number.getD 1, direction, word) :: done) rest

/-- Read a simple command. -/
def simple? : Nat → List (String × Word) → List Word → List Redirection → Reads Command
  | 0, _, _, _, _ => none
  | fuel + 1, assignments, words, rs, s => do
    let s := skipBlanks s
    match direction? s with
    | some (number, direction, rest) =>
      let (word, rest) ← word? fuel isMeta [] (skipBlanks rest)
      if word.isEmpty then none
      else simple? fuel assignments words ((number.getD 1, direction, word) :: rs) rest
    | none =>
      let (word, rest) ← word? fuel isMeta [] s
      if word.isEmpty then
        if assignments.isEmpty && words.isEmpty && rs.isEmpty then none
        else return ((Command.simple assignments.reverse words.reverse).with rs.reverse, s)
      else
        match words.isEmpty, assignment? word with
        | true, some a => simple? fuel (a :: assignments) words rs rest
        | _, _ => simple? fuel assignments (word :: words) rs rest

end

/-- Read a whole script. -/
def script? (text : String) : Option Command := do
  let s := text.toList
  let (c, rest) ← commands? (8 * s.length + 64) s
  if rest.isEmpty then return c else none

end Interpose.Shell
