import Interpose.Http.Headers
import Interpose.Compression.Gzip
import Interpose.Text.Blank
import Interpose.Fault

/-!
# Responses

A response and the two changes to its body: `withBody` keeps an existing `Content-Length` in step,
and `decode` undoes the content encodings that the header lists.

Encodings were applied from left to right, so they are undone from right to left. Decoding is all
or nothing: a response whose body cannot be decoded stays as it is.
-/

namespace Interpose

/-- A response. -/
structure Response where
  status : Nat
  headers : Headers := {}
  body : Bytes := []
  deriving DecidableEq, Repr

namespace Response

/-- Replace the body, keeping an existing `Content-Length` in step. -/
def withBody (r : Response) (body : Bytes) : Response :=
  let headers :=
    if r.headers.contains Headers.contentLength then
      r.headers.set Headers.contentLength (toString body.length)
    else r.headers
  { r with body := body, headers := headers }

/-- Undo one encoding, given by its name in lower case. A body that is called deflated may be a
zlib stream or a raw one. -/
def undo (encoding : String) (body : Bytes) : Except Fault Bytes :=
  if encoding = "" || encoding = "identity" || encoding = "none" then .ok body
  else if encoding = "gzip" || encoding = "x-gzip" then
    match Gzip.decode? body with
    | .ok content => .ok content
    | .error trouble => .error (.decode encoding trouble.text)
  else if encoding = "deflate" then
    match Zlib.decode? body with
    | some content => .ok content
    | none =>
      match inflate? body with
      | .ok (content, _) => .ok content
      | .error damage => .error (.decode encoding (Gzip.damageText damage))
  else .error (.decode encoding "unsupported content encoding")

/-- Undo encodings in the given order. -/
def undoAll : List String → Bytes → Except Fault Bytes
  | [], body => .ok body
  | encoding :: rest, body =>
    match undo encoding body with
    | .ok body => undoAll rest body
    | .error fault => .error fault

/-- The encodings that a header value lists, in lower case. -/
def encodings (value : String) : List String :=
  ((lowerText value).toList.splitOn ',').map fun piece => String.ofList (Blank.trim piece)

/-- Undo the content encodings of the body and drop their header. -/
def decode (r : Response) : Except Fault Response :=
  match r.headers.get? Headers.contentEncoding with
  | none => .ok r
  | some value =>
    match undoAll (encodings value).reverse r.body with
    | .error fault => .error fault
    | .ok body => .ok ({ r with headers := r.headers.remove Headers.contentEncoding }.withBody body)

end Response

end Interpose
