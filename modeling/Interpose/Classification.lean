import Interpose.Trace
import Interpose.Sniff
import Interpose.Text.Utf16

/-!
# Classification

A body is HTML, a script, or neither (`none`). The decision weighs the declared media type against
what the body looks like; where the two disagree a mismatch is recorded and logged.

A body looks like a script when it is no JSON text and the checker finds no error in it. The
checker is the expensive test and is asked at most once, and never about an empty source or a JSON
text.
-/

namespace Interpose

/-- A disagreement between the declared type and the look of a body. -/
inductive Mismatch
  /-- Declared HTML, but the body does not start like it. -/
  | notHtml
  /-- The body starts like HTML, but the declaration says otherwise or is missing. -/
  | looksLikeHtml
  /-- The body parses as a script, but the declaration says otherwise or is missing. -/
  | looksLikeScript
  deriving DecidableEq, Repr

/-- The wording of a mismatch. -/
def Mismatch.text : Mismatch → String
  | notHtml => "does not look like HTML"
  | looksLikeHtml => "looks like HTML"
  | looksLikeScript => "looks like JavaScript"

/-- The classification of a body. -/
structure Decision where
  kind : Option Kind
  /-- The declared type in lower case, empty when absent. -/
  declared : String
  mismatches : List Mismatch
  deriving DecidableEq, Repr

namespace Classification

/-- The form of a body that is looked at: in UTF-8 and without blanks around it. -/
def lookedAt (body : Bytes) : Bytes := Bytes.trim (normalize body)

/-- The log line of a mismatch. -/
def mismatchNote (url declared : String) (looked : Bytes) (m : Mismatch) : Trace :=
  let about := "'" ++ url ++ "' " ++ m.text ++ ", but Content-Type was " ++
    (if declared = "" then "missing" else "'" ++ declared ++ "'")
  .note .warn about (some (Sniff.preview looked))

/-- Whether a source is a script, and what asking cost. -/
def asScript (checker : Checker) (looked : Bytes) : Bool × Trace :=
  if Sniff.looksLikeJson looked then (false, {})
  else
    let verdict := checker looked
    (!verdict.faulty, { log := verdict.log, checked := [looked] })

/-- Classify what a body looks like against a declared type in lower case. -/
def decide (checker : Checker) (url declared : String) (looked : Bytes) : Decision × Trace :=
  let note := mismatchNote url declared looked
  if declared = "" then
    if looked.isEmpty then (⟨none, declared, []⟩, {})
    else if Sniff.looksLikeHtml looked then
      (⟨none, declared, [.looksLikeHtml]⟩, note .looksLikeHtml)
    else
      let (isScript, asked) := asScript checker looked
      if isScript then
        (⟨none, declared, [.looksLikeScript]⟩, asked ++ note .looksLikeScript)
      else (⟨none, declared, []⟩, asked)
  else if hasText declared "html" then
    if looked.isEmpty || Sniff.looksLikeHtml looked then (⟨some .html, declared, []⟩, {})
    else
      let (isScript, asked) := asScript checker looked
      let kind :=
        if isScript then some Kind.script
        else if declared = "text/html" then some Kind.html
        else none
      (⟨kind, declared, [.notHtml]⟩, note .notHtml ++ asked)
  else
    let (seen, noted) :=
      if Sniff.looksLikeHtml looked then ([Mismatch.looksLikeHtml], note .looksLikeHtml)
      else ([], {})
    if hasText declared "javascript" then (⟨some .script, declared, seen⟩, noted)
    else if hasText declared "json" || looked.isEmpty then (⟨none, declared, seen⟩, noted)
    else
      let (isScript, asked) := asScript checker looked
      if isScript then
        (⟨none, declared, seen ++ [.looksLikeScript]⟩, noted ++ asked ++ note .looksLikeScript)
      else (⟨none, declared, seen⟩, noted ++ asked)

/-- Classify a body given the declared type, if there is one. -/
def classify (checker : Checker) (url : String) (body : Bytes) (declared : Option String) :
    Decision × Trace :=
  let (decision, trace) := decide checker url (lowerText (declared.getD "")) (lookedAt body)
  (decision, .normalizing body ++ trace)

end Classification

end Interpose
