import Interpose.Digest.Sha256
import Interpose.Url.Percent
import Interpose.Text.Utf8

/-!
# Keys and names in the cache

An artifact is stored under the host it came from and the hash of its source; the path, query and
declared type of a request play no part. Within that place its name is taken from the last segment
of the request's path, reduced to characters that are harmless in a file name.
-/

namespace Interpose.Cache

/-- The place of a source in the cache. -/
structure Key where
  host : String
  hash : String
  deriving DecidableEq, Repr

/-- The place for requests without a host. -/
def unknownHost : String := "unknown-host"

/-- The key of a source in UTF-8. -/
def Key.of (host : Option String) (source : Bytes) : Key :=
  ⟨match host with
    | none => unknownHost
    | some h => if h = "" then unknownHost else h,
   contentHash source⟩

/-- The name of an artifact whose request gives none. -/
def defaultName : String := "index"

/-- Whether a character may stand in an artifact's name. -/
def isNameChar (c : Char) : Bool := c.isAlphanum || c == '-' || c == '_' || c == '.'

/-- A file name without its extension. Dots at the front start no extension. -/
def stem (name : List Char) : List Char :=
  match name.reverse.dropWhile (· != '.') with
  | _ :: before => if before.all (· == '.') then name else before.reverse
  | [] => name

/-- The artifact name of a path segment in encoded form. -/
def segmentName (segment : String) : String :=
  let decoded := Utf8.decodeLossy (Percent.decode (Bytes.ofText segment))
  let name := (stem decoded.toList).filter isNameChar
  if name.all (· == '.') then defaultName else String.ofList name

/-- The artifact name of a request's path. -/
def artifactName (components : List String) : String :=
  match components.getLast? with
  | none => defaultName
  | some segment => segmentName segment

end Interpose.Cache
