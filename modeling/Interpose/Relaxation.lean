import Interpose.Http.Request
import Interpose.Http.Response

/-!
# Relaxing the headers of a response

Four changes let an instrumented page run: a redirect carries the request's custom query on, a
redirect to the request itself is broken, any origin may read the response, and no content policy
restricts the page.

The changes go through an index of the headers with a meaning, taken once: it holds the sender's
spelling of each name, so that what is written keeps that spelling.
-/

namespace Interpose

/-- The sender's spelling of each header with a meaning. -/
structure HeaderIndex where
  contentType : Option String := none
  allowOrigin : Option String := none
  allowCredentials : Option String := none
  contentSecurityPolicy : Option String := none
  location : Option String := none
  origin : Option String := none
  setCookie : Option String := none
  deriving DecidableEq, Repr

namespace HeaderIndex

/-- Note a spelling in the index unless its name has one already. -/
def note (index : HeaderIndex) (key : String) : HeaderIndex :=
  if sameText key Headers.contentType then
    { index with contentType := index.contentType <|> some key }
  else if sameText key Headers.allowOrigin then
    { index with allowOrigin := index.allowOrigin <|> some key }
  else if sameText key Headers.allowCredentials then
    { index with allowCredentials := index.allowCredentials <|> some key }
  else if sameText key Headers.contentSecurityPolicy then
    { index with contentSecurityPolicy := index.contentSecurityPolicy <|> some key }
  else if sameText key Headers.location then
    { index with location := index.location <|> some key }
  else if sameText key Headers.origin then
    { index with origin := index.origin <|> some key }
  else if sameText key Headers.setCookie then
    { index with setCookie := index.setCookie <|> some key }
  else index

/-- The index of a header list, in one walk. -/
def scan (h : Headers) : HeaderIndex := h.entries.foldl (fun index e => index.note e.1) {}

/-- The key under which the media type is written. -/
def contentTypeKey (index : HeaderIndex) : String :=
  index.contentType.getD Headers.contentType

/-- The key under which the permitted origin is written. -/
def allowOriginKey (index : HeaderIndex) : String :=
  index.allowOrigin.getD Headers.allowOrigin

end HeaderIndex

namespace Response

/-- A redirect's target with pieces added to its query. -/
def mergedTarget (target : String) (pieces : List String) : String :=
  target ++ (if target.contains '?' then "&" else "?") ++ "&".intercalate pieces

/-- Carry the request's custom query on to the target of a redirect. -/
def mergeQuery (r : Response) (index : HeaderIndex) (pieces : List String) : Response :=
  if (r.status = 301 ∨ r.status = 302) ∧ pieces ≠ [] then
    match index.location with
    | none => r
    | some key =>
      match r.headers.get? key with
      | none => r
      | some target => { r with headers := r.headers.set key (mergedTarget target pieces) }
  else r

/-- Whether a redirect leads to the request's own URL. -/
def loopsTo (r : Response) (index : HeaderIndex) (url : String) : Bool :=
  match index.location with
  | none => false
  | some key => r.headers.get? key == some url

/-- Turn a redirect to the request's own URL into a failure. -/
def breakLoop (r : Response) (index : HeaderIndex) (url : String) : Response :=
  match index.location with
  | none => r
  | some key =>
    if r.loopsTo index url then
      { r with headers := r.headers.remove key, status := 500 }
    else r

/-- The origin that may read the response: the requesting one if it sends credentials and the
response takes them, else any. -/
def permittedOrigin (r : Response) (index : HeaderIndex) (request : Request) : String :=
  let credentialed := index.allowCredentials.bind r.headers.get? == some "true"
  match credentialed, request.headers.get? Headers.origin with
  | true, some origin => origin
  | _, _ => "*"

/-- Let the permitted origin read the response. -/
def allowReading (r : Response) (index : HeaderIndex) (request : Request) : Response :=
  { r with headers := r.headers.set index.allowOriginKey (r.permittedOrigin index request) }

/-- Whether the response carries a content policy. -/
def hasPolicy (r : Response) (index : HeaderIndex) : Bool :=
  match index.contentSecurityPolicy with
  | none => false
  | some key => r.headers.contains key

/-- Drop the content policy. -/
def dropPolicy (r : Response) (index : HeaderIndex) : Response :=
  match index.contentSecurityPolicy with
  | none => r
  | some key => { r with headers := r.headers.remove key }

end Response

end Interpose
