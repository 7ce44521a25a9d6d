import Interpose.Cache.Store
import Interpose.Classification
import Interpose.Http.Flow
import Interpose.Relaxation

/-!
# The response pass

Once a response is there, a pass decodes its body, decides what kind of content it is, has HTML and
scripts instrumented, and relaxes its headers.

A pass ends in one of three ways. A flow that carries an error is skipped. A flow without a response,
or with one that cannot be decoded, fails, and stays as it was but for the error that a failed
decoding records. Any other pass is completed; a tool or store that fails on the way only means that
the body goes on as it came.
-/

namespace Interpose

/-- How a pass ended. -/
inductive Outcome
  | skipped
  | failed
  | completed (kind : Option Kind)
  deriving DecidableEq, Repr

/-- The word for an outcome. -/
def Outcome.word : Outcome → String
  | skipped => "skipped"
  | failed => "failed"
  | completed kind => Kind.word kind

/-- Which kinds are handed to the tool. -/
structure Switches where
  html : Bool := true
  script : Bool := true
  deriving DecidableEq, Repr

/-- What passes work with: the store's settings, the switches, the tool and the checker. -/
structure Proxy where
  settings : Cache.Settings
  switches : Switches := {}
  tool : Tool
  checker : Checker

namespace Pass

open Cache (Store)

/-- The body served in place of a script that is an HTML page. -/
def unexpected : Bytes := Bytes.ofText "console.error(\"UNEXPECTED\");"

/-- The media type that the request or the status implies. -/
def hint (request : Request) (status : Nat) : Option String :=
  if status = 204 then some "text/javascript"
  else if endsText request.path ".js" || request.forceScript then some "text/javascript"
  else if endsText request.path ".html" then some "text/html"
  else none

/-- A response without content becomes one that can carry a script. -/
def withContent (r : Response) : Response := if r.status = 204 then { r with status := 200 } else r

/-- The media type that the response declares, in lower case. -/
def declared (r : Response) (index : HeaderIndex) : Option String :=
  (index.contentType.bind r.headers.get?).map lowerText

/-- Set the media type of a kind. -/
def setMediaType (r : Response) (index : HeaderIndex) (kind : Kind) : Response :=
  { r with headers := r.headers.set index.contentTypeKey kind.mediaType }

/-- The instrumented form of a body, or the body itself when instrumenting fails. -/
def instrumented (proxy : Proxy) (store : Store) (request : Request) (body : Bytes)
    (kind : Kind) : Store × Trace × Bytes :=
  let answer := Cache.instrument proxy.settings proxy.tool store request body kind
  match answer.result with
  | .ok i => (answer.store, answer.trace, i.body)
  | .error fault =>
    let warning := Trace.warn <|
      "Instrumenting " ++ request.clientUrl ++ " as " ++ kind.extension ++
        " failed, passing it through: " ++ fault.message
    (answer.store, answer.trace ++ warning, body)

/-- The response to an HTML page. A blank page becomes an empty one without the tool. -/
def ontoHtml (proxy : Proxy) (store : Store) (request : Request) (r : Response)
    (index : HeaderIndex) : Store × Trace × Response :=
  if proxy.switches.html then
    if (Bytes.trim r.body).isEmpty then
      (store, {}, setMediaType (r.withBody []) index .html)
    else
      let (store, trace, body) := instrumented proxy store request r.body .html
      (store, trace, setMediaType (r.withBody body) index .html)
  else (store, {}, setMediaType r index .html)

/-- The response to a script. An HTML page in a script's place becomes a failure. -/
def ontoScript (proxy : Proxy) (store : Store) (request : Request) (r : Response)
    (index : HeaderIndex) : Store × Trace × Response :=
  let looked := Trace.normalizing r.body
  if Sniff.looksLikeHtml (Classification.lookedAt r.body) then
    let warning := Trace.warn (request.url ++ " was served as a script but is an HTML page")
    (store, looked ++ warning,
      setMediaType ({ r with status := 500 }.withBody unexpected) index .script)
  else if proxy.switches.script then
    let (store, trace, body) := instrumented proxy store request r.body .script
    (store, looked ++ trace, setMediaType (r.withBody body) index .script)
  else (store, looked, setMediaType r index .script)

/-- The response to content of a kind. -/
def onto (proxy : Proxy) (store : Store) (request : Request) (r : Response) (index : HeaderIndex) :
    Option Kind → Store × Trace × Response
  | some .html => ontoHtml proxy store request r index
  | some .script => ontoScript proxy store request r index
  | none => (store, {}, r)

/-- Relax the headers of a finished response. -/
def relax (request : Request) (r : Response) (index : HeaderIndex) : Response × Trace :=
  let note :=
    if r.loopsTo index request.url then Trace.warn ("Broke self-redirect at " ++ request.url)
    else {}
  (((r.breakLoop index request.url).allowReading index request).dropPolicy index, note)

/-- Complete a pass on a decoded response. -/
def complete (proxy : Proxy) (store : Store) (request : Request) (decoded : Response) :
    Store × Trace × Response × Option Kind :=
  let r := withContent decoded
  let index := HeaderIndex.scan r.headers
  let type := hint request decoded.status <|> declared r index
  let r := r.mergeQuery index request.customQuery
  let (decision, classified) :=
    Classification.classify proxy.checker request.url r.body type
  let named := Trace.debug (request.url ++ " classified as " ++ Kind.word decision.kind)
  let (store, worked, r) := onto proxy store request r index decision.kind
  let (r, relaxed) := relax request r index
  (store, classified ++ named ++ worked ++ relaxed, r, decision.kind)

/-- The log line of a failed pass. -/
def failure (url : String) (fault : Fault) : Trace :=
  .error ("Rewriting " ++ url ++ " failed: " ++ fault.message)

/-- What a pass leaves. -/
structure Result where
  store : Store
  trace : Trace := {}
  flow : Flow
  outcome : Outcome

/-- Run a pass over a flow. -/
def run (proxy : Proxy) (store : Store) (flow : Flow) : Result :=
  match flow.error with
  | some error =>
    { store, flow, outcome := .skipped
      trace := .warn ("Skipping " ++ flow.request.url ++ ": " ++ error) }
  | none =>
    match flow.response with
    | none => { store, flow, outcome := .failed, trace := failure flow.request.url .noResponse }
    | some response =>
      match response.decode with
      | .error fault =>
        { store, outcome := .failed, trace := failure flow.request.url fault
          flow := { flow with error := some fault.message } }
      | .ok decoded =>
        let (store, trace, r, kind) := complete proxy store flow.request decoded
        { store, trace, outcome := .completed kind, flow := { flow with response := some r } }

end Pass

namespace Flow

/-- The request hook: a flow whose request has been preprocessed. -/
def preprocess (f : Flow) : Flow := { f with request := f.request.preprocess }

/-- What the request hook notes in the log. -/
def preprocessNote (f : Flow) : Trace :=
  match Sync.strip? f.request.url with
  | none => {}
  | some (_, value) => .debug ("Stripped sync=" ++ value ++ " from " ++ f.request.url)

/-- Both hooks, one after the other. -/
def replay (proxy : Proxy) (store : Cache.Store) (f : Flow) : Pass.Result :=
  let r := Pass.run proxy store f.preprocess
  { r with trace := f.preprocessNote ++ r.trace }

end Flow

end Interpose
