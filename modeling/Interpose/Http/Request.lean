import Interpose.Http.Headers
import Interpose.Http.Sync
import Interpose.Url.Parser

/-!
# Requests

A request as the proxy sees it. Its URL may have been changed on the way; then the URL that the
client asked for stands beside it. A URL that cannot be read has no host and an empty path.
-/

namespace Interpose

/-- A request. -/
structure Request where
  method : String := "GET"
  /-- The URL under which the request goes on. -/
  url : String
  /-- The URL before it was changed. -/
  askedUrl : Option String := none
  headers : Headers := {}
  /-- Pieces of query that a redirect's target has to carry. -/
  customQuery : List String := []
  /-- Treat the response as a script whatever it says. -/
  forceScript : Bool := false
  /-- The value of the `sync` piece taken out of the URL. -/
  sync : Option String := none
  deriving DecidableEq, Repr

namespace Request

/-- The URL that the client asked for. -/
def clientUrl (r : Request) : String := r.askedUrl.getD r.url

/-- The host that the request goes to. -/
def host (r : Request) : Option String := (Url.parse? r.url).bind (·.host)

/-- The path with the query, without the fragment. -/
def path (r : Request) : String :=
  match Url.parse? r.url with
  | none => ""
  | some u =>
    match u.query with
    | none => u.path
    | some query => u.path ++ "?" ++ query

/-- The segments of the path that are not empty, in encoded form. -/
def pathComponents (r : Request) : List String :=
  match Url.parse? r.url with
  | none => []
  | some u => u.segments.filter (· ≠ "")

/-- Record the URL as the client's and take the `sync` piece out of it. -/
def preprocess (r : Request) : Request :=
  match Sync.strip? r.url with
  | none => { r with askedUrl := some r.url }
  | some (url, value) => { r with askedUrl := some r.url, url := url, sync := some value }

end Request

end Interpose
