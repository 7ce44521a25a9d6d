import Interpose.Http.Request
import Interpose.Http.Response
import Interpose.Json.Reader
import Interpose.Json.Printer
import Interpose.Text.Base64

/-!
# Flows

A flow is one exchange: a request, the response once there is one, and the error if there was one.

Recorded flows are JSON texts. Fields that hold their default are left out on writing, where
reading puts the default back. A body is written as a text when it is UTF-8 and in base 64
otherwise, and both forms are read.
-/

namespace Interpose

/-- A request with what came of it. -/
structure Flow where
  request : Request
  response : Option Response := none
  error : Option String := none
  deriving DecidableEq, Repr

/-! ## Writing -/

namespace Bytes

/-- The recorded form of a body. -/
def toJson (body : Bytes) : Json :=
  match Utf8.decode? body with
  | some s => .record [("text", .text s)]
  | none => .record [("base64", .text (Base64.encode body))]

end Bytes

namespace Headers

/-- The recorded form of a header list. -/
def toJson (h : Headers) : Json :=
  .array (h.entries.map fun (name, value) => .array [.text name, .text value])

end Headers

/-- The member of an optional text; none is left out. -/
def optionalMember (name : String) : Option String → List (String × Json)
  | none => []
  | some s => [(name, .text s)]

namespace Request

/-- The recorded form of a request. -/
def toJson (r : Request) : Json :=
  .record <|
    [("method", .text r.method), ("url", .text r.url)] ++
    optionalMember "orig_url" r.askedUrl ++
    [("headers", r.headers.toJson)] ++
    (if r.customQuery.isEmpty then []
      else [("custom_query", .array (r.customQuery.map Json.text))]) ++
    (if r.forceScript then [("force_script", .bool true)] else []) ++
    optionalMember "sync" r.sync

end Request

namespace Response

/-- The recorded form of a response. -/
def toJson (r : Response) : Json :=
  .record
    [("status_code", .nat r.status), ("headers", r.headers.toJson), ("body", r.body.toJson)]

end Response

namespace Flow

/-- The recorded form of a flow. -/
def toJson (f : Flow) : Json :=
  .record <|
    [("request", f.request.toJson)] ++
    (match f.response with
      | none => []
      | some r => [("response", r.toJson)]) ++
    optionalMember "error" f.error

/-- The text of a flow on one line. -/
def compact (f : Flow) : String := f.toJson.compact

/-- The text of a flow with a line for each member. -/
def pretty (f : Flow) : String := f.toJson.pretty

end Flow

/-! ## Reading -/

namespace Bytes

/-- The deepest nesting inside a recorded body: the record of the body itself is the third level
of a flow, and no value is read past level 127. -/
def bodyDepth : Nat := 126

/-- The only member of a name that is a text. -/
def soleText? (name : String) (members : List (Option String × Json)) : Option String :=
  match members.filter (·.1 == some name) with
  | [m] => m.2.text?
  | _ => none

/-- Read a recorded body. -/
def ofJson? (v : Json) : Option Bytes :=
  if v.sound bodyDepth then
    match v.members? with
    | none => none
    | some members =>
      match soleText? "text" members with
      | some s => some (Bytes.ofText s)
      | none => (soleText? "base64" members).bind Base64.decode?
  else none

end Bytes

namespace Headers

/-- Read a header. -/
def entryOfJson? : Json → Option (String × String)
  | .array [name, value] =>
    match name.text?, value.text? with
    | some n, some v => some (n, v)
    | _, _ => none
  | _ => none

/-- Read a recorded header list. -/
def ofJson? (v : Json) : Option Headers := (v.list? entryOfJson?).map Headers.mk

end Headers

namespace Request

/-- The fields of a recorded request, in order. -/
def fieldNames : List String :=
  ["method", "url", "orig_url", "headers", "custom_query", "force_script", "sync"]

/-- Read a recorded request. -/
def ofJson? (v : Json) : Option Request :=
  match v.fields? fieldNames with
  | some [method, url, asked, headers, query, force, sync] => do
    return {
      method := ← Json.withDefault "GET" Json.text? method
      url := ← Json.required Json.text? url
      askedUrl := ← Json.withDefault none (Json.optional? Json.text?) asked
      headers := ← Json.withDefault {} Headers.ofJson? headers
      customQuery := ← Json.withDefault [] (Json.list? Json.text?) query
      forceScript := ← Json.withDefault false Json.bool? force
      sync := ← Json.withDefault none (Json.optional? Json.text?) sync }
  | _ => none

end Request

namespace Response

/-- Read a recorded response. A status is a number of 16 bits. -/
def ofJson? (v : Json) : Option Response :=
  match v.fields? ["status_code", "headers", "body"] with
  | some [status, headers, body] => do
    return {
      status := ← Json.required (Json.natBelow? 65536) status
      headers := ← Json.withDefault {} Headers.ofJson? headers
      body := ← Json.withDefault [] Bytes.ofJson? body }
  | _ => none

end Response

namespace Flow

/-- Read a recorded flow. -/
def ofJson? (v : Json) : Option Flow :=
  match v.fields? ["request", "response", "error"] with
  | some [request, response, error] => do
    return {
      request := ← Json.required Request.ofJson? request
      response := ← Json.withDefault none (Json.optional? Response.ofJson?) response
      error := ← Json.withDefault none (Json.optional? Json.text?) error }
  | _ => none

/-- The flow of a JSON text. -/
def read? (text : Bytes) : Option Flow := (Json.read? text).bind ofJson?

end Flow

end Interpose
