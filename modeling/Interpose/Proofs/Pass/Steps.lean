import Interpose.Pass

/-!
# The steps of a pass

What each step of a pass leaves of the status, the headers and the body that it found, and a
completed pass as the chain of its steps (`complete_steps`). Decoding leaves a response as it is, or
drops the header that lists its encodings and sets its body (`decode_eq_ok`). Work on content of a
kind serves the response as that kind, sets its body or keeps it, and sets its media type; which of
these it does, and at what cost, hangs on the body alone (`onto_served`).
-/

namespace Interpose

open Headers
open Cache (Store)

namespace Response

theorem decode_of_get? {r : Response} {value : String}
    (hvalue : r.headers.get? contentEncoding = some value) :
    r.decode = (undoAll (encodings value).reverse r.body).map fun body =>
      { r with headers := r.headers.remove contentEncoding }.withBody body := by
  rw [decode, hvalue]
  dsimp only
  cases undoAll (encodings value).reverse r.body <;> rfl

/-- A response without encodings is its own decoded form; any other loses the header that lists
them, and its body is what is left when they are undone. -/
theorem decode_eq_ok {r decoded : Response} (h : r.decode = .ok decoded) :
    (r.headers.get? contentEncoding = none ∧ decoded = r) ∨
    ∃ value body, r.headers.get? contentEncoding = some value ∧
      undoAll (encodings value).reverse r.body = .ok body ∧
      decoded = { r with headers := r.headers.remove contentEncoding }.withBody body := by
  cases hg : r.headers.get? contentEncoding with
  | none =>
    rw [decode, hg] at h
    exact Or.inl ⟨rfl, (Except.ok.inj h).symm⟩
  | some value =>
    rw [decode_of_get? hg] at h
    cases hu : undoAll (encodings value).reverse r.body with
    | error fault => simp [hu, Except.map] at h
    | ok body =>
      rw [hu] at h
      exact Or.inr ⟨value, body, rfl, hu, (Except.ok.inj h).symm⟩

theorem status_decode {r decoded : Response} (h : r.decode = .ok decoded) :
    decoded.status = r.status := by
  obtain ⟨-, rfl⟩ | ⟨value, body, -, -, rfl⟩ := decode_eq_ok h <;> rfl

end Response

namespace Pass

/-! ## What is worked on -/

theorem headers_withContent (r : Response) : (withContent r).headers = r.headers := by
  unfold withContent
  split <;> rfl

theorem body_withContent (r : Response) : (withContent r).body = r.body := by
  unfold withContent
  split <;> rfl

theorem status_withContent (r : Response) :
    (withContent r).status = if r.status = 204 then 200 else r.status := by
  unfold withContent
  split <;> rfl

/-- Carrying a query on changes the headers only. -/
theorem exists_mergeQuery (r : Response) (index : HeaderIndex) (pieces : List String) :
    ∃ headers, r.mergeQuery index pieces = { r with headers } := by
  unfold Response.mergeQuery
  split
  · split
    · exact ⟨_, rfl⟩
    · split
      · exact ⟨_, rfl⟩
      · exact ⟨_, rfl⟩
  · exact ⟨_, rfl⟩

theorem body_mergeQuery (r : Response) (index : HeaderIndex) (pieces : List String) :
    (r.mergeQuery index pieces).body = r.body := by
  obtain ⟨headers, hmerged⟩ := exists_mergeQuery r index pieces
  rw [hmerged]

theorem status_mergeQuery (r : Response) (index : HeaderIndex) (pieces : List String) :
    (r.mergeQuery index pieces).status = r.status := by
  obtain ⟨headers, hmerged⟩ := exists_mergeQuery r index pieces
  rw [hmerged]

/-- What a pass works on after decoding: the response with content, and with the request's query in
its target. -/
def merged (request : Request) (decoded : Response) : Response :=
  (withContent decoded).mergeQuery (.scan decoded.headers) request.customQuery

theorem body_merged (request : Request) (decoded : Response) :
    (merged request decoded).body = decoded.body := by
  rw [merged, body_mergeQuery, body_withContent]

/-! ## Work on content of a kind -/

/-- A response as content of a kind: an HTML page in a script's place is a failure. -/
def servedAs (kind : Kind) (r : Response) : Response :=
  if kind = .script ∧ Sniff.looksLikeHtml (Classification.lookedAt r.body) then
    { r with status := 500 }
  else r

/-- Content of a known kind is served as that kind, has its body replaced or kept, and then its
media type set. Which it is, with what body and at what cost, hangs on the body alone. -/
theorem onto_served (proxy : Proxy) (store : Store) (request : Request) (body : Bytes)
    (kind : Kind) : ∃ (store' : Store) (trace : Trace) (body' : Option Bytes),
      ∀ (r : Response) (index : HeaderIndex), r.body = body →
        onto proxy store request r index (some kind) = (store', trace,
          setMediaType (body'.elim (servedAs kind r) (servedAs kind r).withBody) index kind) := by
  cases kind with
  | html =>
    have hserved : ∀ r, servedAs .html r = r := fun r => by simp [servedAs]
    cases hswitch : proxy.switches.html with
    | false =>
      refine ⟨store, {}, none, fun r index _ => ?_⟩
      simp [onto, ontoHtml, hswitch, hserved]
    | true =>
      cases hblank : (Bytes.trim body).isEmpty with
      | true =>
        refine ⟨store, {}, some [], fun r index hr => ?_⟩
        simp [onto, ontoHtml, hswitch, hr, hblank, hserved]
      | false =>
        refine ⟨(instrumented proxy store request body .html).1,
          (instrumented proxy store request body .html).2.1,
          some (instrumented proxy store request body .html).2.2, fun r index hr => ?_⟩
        simp only [onto, ontoHtml, hswitch, hr, hblank, hserved]
        rfl
  | script =>
    cases hlooks : Sniff.looksLikeHtml (Classification.lookedAt body) with
    | true =>
      refine ⟨store, .normalizing body ++
        .warn (request.url ++ " was served as a script but is an HTML page"), some unexpected,
        fun r index hr => ?_⟩
      simp only [onto, ontoScript, servedAs, hr, hlooks]
      rfl
    | false =>
      cases hswitch : proxy.switches.script with
      | false =>
        refine ⟨store, .normalizing body, none, fun r index hr => ?_⟩
        simp only [onto, ontoScript, servedAs, hr, hlooks, hswitch]
        rfl
      | true =>
        refine ⟨(instrumented proxy store request body .script).1,
          .normalizing body ++ (instrumented proxy store request body .script).2.1,
          some (instrumented proxy store request body .script).2.2, fun r index hr => ?_⟩
        simp only [onto, ontoScript, servedAs, hr, hlooks, hswitch]
        rfl

theorem headers_servedAs (kind : Kind) (r : Response) : (servedAs kind r).headers = r.headers := by
  unfold servedAs
  split <;> rfl

theorem body_servedAs (kind : Kind) (r : Response) : (servedAs kind r).body = r.body := by
  unfold servedAs
  split <;> rfl

/-- Work on content of some kind fails an HTML page in a script's place, and nothing else. -/
theorem status_onto (proxy : Proxy) (store : Store) (request : Request) (r : Response)
    (index : HeaderIndex) (kind : Option Kind) :
    (onto proxy store request r index kind).2.2.status =
      if kind = some .script ∧ Sniff.looksLikeHtml (Classification.lookedAt r.body) then 500
      else r.status := by
  cases kind with
  | none => rfl
  | some k =>
    obtain ⟨store', trace, body', hserved⟩ := onto_served proxy store request r.body k
    have hbody : ∀ r : Response, (body'.elim r r.withBody).status = r.status := fun r => by
      cases body' <;> rfl
    rw [hserved r index rfl]
    change (body'.elim (servedAs k r) (servedAs k r).withBody).status = _
    rw [hbody, servedAs]
    simp only [Option.some.injEq]
    split <;> rfl

/-! ## The chain of the steps -/

theorem body_relax (request : Request) (r : Response) (index : HeaderIndex) :
    (relax request r index).1.body = r.body := by
  unfold relax Response.dropPolicy Response.allowReading Response.breakLoop
  dsimp only
  repeat' split
  all_goals rfl

/-- The media type by which a pass classifies: the one hinted at, else the one declared. -/
def mediaType (request : Request) (decoded : Response) : Option String :=
  hint request decoded.status <|> declared (withContent decoded) (.scan decoded.headers)

theorem mediaType_of_hint {request : Request} {decoded : Response} {type : String}
    (htype : hint request decoded.status = some type) : mediaType request decoded = some type := by
  rw [mediaType, htype]
  rfl

/-- A pass in its steps on the response that it decoded. -/
theorem complete_steps (proxy : Proxy) (store : Store) (request : Request) (decoded : Response) :
    complete proxy store request decoded =
      let classified := Classification.classify proxy.checker request.url decoded.body
        (mediaType request decoded)
      let worked := onto proxy store request (merged request decoded) (.scan decoded.headers)
        classified.1.kind
      let relaxed := relax request worked.2.2 (.scan decoded.headers)
      (worked.1, classified.2 ++
          .debug (request.url ++ " classified as " ++ Kind.word classified.1.kind) ++
          worked.2.1 ++ relaxed.2,
        relaxed.1, classified.1.kind) := by
  rw [← body_merged request decoded]
  simp only [complete, headers_withContent, merged, mediaType]

end Pass

end Interpose
