/-!
# Kinds of content

The two kinds of content that the tool instruments, with the names under which each is known: the
file extension of its artifacts and the media type of a response that carries it.
-/

namespace Interpose

/-- A kind of content that can be instrumented. -/
inductive Kind
  | html
  | script
  deriving DecidableEq, Repr

namespace Kind

/-- The file extension of an artifact, which is also what the tool and the metadata call it. -/
def extension : Kind → String
  | html => "html"
  | script => "js"

/-- The media type of a response of this kind. -/
def mediaType : Kind → String
  | html => "text/html; charset=utf-8"
  | script => "text/javascript"

/-- The word for a classification. -/
def word : Option Kind → String
  | some html => "html"
  | some script => "javascript"
  | none => "unknown"

end Kind

end Interpose
