import Interpose.Text.Utf8
import Interpose.Json.Reader

/-!
# Cheap looks at a body

Three tests that need no parser of the language in question: whether a body starts like an HTML
document, whether it is a JSON text, and the leading characters of a body for a log line.

A UTF-8 byte-order mark is a character of no width wherever it stands, so the HTML test looks at
the body without its marks.
-/

namespace Interpose.Sniff

/-- The UTF-8 byte-order mark. -/
def mark : Bytes := [0xEF, 0xBB, 0xBF]

/-- Drop every UTF-8 byte-order mark of a body, keeping the bytes `kept` (last first). -/
def dropMarksFrom (kept : Bytes) : Bytes → Bytes
  | 0xEF :: 0xBB :: 0xBF :: rest => dropMarksFrom kept rest
  | b :: rest => dropMarksFrom (b :: kept) rest
  | [] => kept.reverse

/-- A body without its UTF-8 byte-order marks. -/
def dropMarks (body : Bytes) : Bytes := dropMarksFrom [] body

/-- Whether a body starts with the given bytes up to the case of ASCII letters. -/
def startsWith (start : Bytes) (body : Bytes) : Bool :=
  start.isPrefixOf ((body.take start.length).map Bytes.lower)

/-- Whether a body starts with a document type or an `html` tag. -/
def startsLikeHtml (body : Bytes) : Bool :=
  startsWith (Bytes.ofText "<!doctype") body || startsWith (Bytes.ofText "<html") body

/-- Whether a trimmed body starts like an HTML document. Without a mark it is looked at as it is. -/
def looksLikeHtml (body : Bytes) : Bool :=
  if hasRun mark body then startsLikeHtml (dropMarks body) else startsLikeHtml body

/-- Whether a trimmed body is one JSON text. -/
def looksLikeJson (body : Bytes) : Bool := (Json.read? body).isSome

/-- How many characters of a body a log line quotes. -/
def previewLength : Nat := 100

/-- The leading characters of a body. -/
def preview (body : Bytes) : String :=
  String.ofList ((Utf8.decodeLossy body).toList.take previewLength)

end Interpose.Sniff
