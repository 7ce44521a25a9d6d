import Interpose.Proofs.Pass.Redirect
import Interpose.Proofs.Http.Encodings

/-!
# Passes that the request decides

The status of a response, the request's path or its wish for a script can hint at a kind. A hint
stands in for the declared media type, so with a hint the media types of the response do not
matter. Two responses alike but for these (`Retyped`) stay so in every step of a pass, and a pass
over either ends alike, at the same cost (`complete_retyped`, `hinted_pass_ignores_media_type`).

A response without content hints at a script. If its body is empty, the pass completes unless the
response lists an encoding that an empty body cannot be in, and serves a script
(`empty_response_becomes_script`). Decoding comes first: such an encoding makes the pass fail, and
the response stays one without content.
-/

namespace Interpose

open Headers
open Cache (Store)

/-! ## Responses alike but for their media types -/

/-- Responses that may differ in their media types only. -/
structure Response.Retyped (r r' : Response) : Prop where
  status : r'.status = r.status
  body : r'.body = r.body
  headers : ChangedAt [contentType] r.headers r'.headers

namespace Response.Retyped

variable {r r' : Response} {d : Headers}

theorem withBody (h : Retyped r r') (body : Bytes) :
    Retyped (r.withBody body) (r'.withBody body) := by
  have hlength : r'.headers.contains contentLength = r.headers.contains contentLength :=
    h.headers.contains (by simp [sameText, lowerText_names])
  refine ⟨h.status, rfl, ?_⟩
  unfold Response.withBody
  dsimp only
  rw [hlength]
  split
  · exact h.headers.set_both (by simp [sameText, lowerText_names]) _
  · exact h.headers

theorem decode {decoded : Response} (h : Retyped r r') (hd : r.decode = .ok decoded) :
    ∃ decoded', r'.decode = .ok decoded' ∧ Retyped decoded decoded' := by
  have hencoding : r'.headers.get? contentEncoding = r.headers.get? contentEncoding :=
    h.headers.get? (by simp [sameText, lowerText_names])
  obtain ⟨hnone, rfl⟩ | ⟨value, body, hvalue, hundo, rfl⟩ := decode_eq_ok hd
  · exact ⟨r', by simp [Response.decode, hencoding, hnone], h⟩
  · have hremoved : Retyped { r with headers := r.headers.remove contentEncoding }
        { r' with headers := r'.headers.remove contentEncoding } :=
      ⟨h.status, h.body, h.headers.remove_both _⟩
    exact ⟨_, by simp [Response.decode, hencoding, hvalue, h.body, hundo], hremoved.withBody body⟩

theorem withContent (h : Retyped r r') : Retyped (Pass.withContent r) (Pass.withContent r') := by
  unfold Pass.withContent
  rw [h.status]
  split
  · exact ⟨rfl, h.body, h.headers⟩
  · exact h

theorem mergeQuery (h : Retyped r r') (d : Headers) (pieces : List String) :
    Retyped (r.mergeQuery (.scan d) pieces) (r'.mergeQuery (.scan d) pieces) := by
  rw [HeaderIndex.scan_eq]
  unfold Response.mergeQuery
  rw [h.status]
  dsimp only
  split
  · cases hk : d.key? location with
    | none => exact h
    | some key =>
      have hne : sameText key contentType = false :=
        sameText_of_key?_ne hk (by simp [sameText, lowerText_names])
      have htarget : r'.headers.get? key = r.headers.get? key :=
        h.headers.get? (by simpa [sameText_comm] using hne)
      dsimp only
      rw [htarget]
      cases r.headers.get? key with
      | none => exact h
      | some target => exact ⟨rfl, h.body, h.headers.set_both (by simpa using hne) _⟩
  · exact h

theorem servedAs (h : Retyped r r') (kind : Kind) :
    Retyped (Pass.servedAs kind r) (Pass.servedAs kind r') := by
  unfold Pass.servedAs
  rw [h.body]
  split
  · exact ⟨rfl, rfl, h.headers⟩
  · exact h

/-- Whatever the spelling of the media type, setting it leaves responses alike but for it. -/
theorem setMediaType (h : Retyped r r') (d d' : Headers) (kind : Kind) :
    Retyped (Pass.setMediaType r (.scan d) kind) (Pass.setMediaType r' (.scan d') kind) := by
  have hset := Pass.changedAt_setMediaType r d kind
  have hset' := Pass.changedAt_setMediaType r' d' kind
  exact ⟨h.status, h.body, hset.symm.trans (h.headers.trans hset')⟩

theorem loopsTo (h : Retyped r r') (d : Headers) (url : String) :
    r'.loopsTo (.scan d) url = r.loopsTo (.scan d) url := by
  rw [HeaderIndex.scan_eq]
  unfold Response.loopsTo
  dsimp only
  cases hk : d.key? location with
  | none => rfl
  | some key =>
    have hne : sameText key contentType = false :=
      sameText_of_key?_ne hk (by simp [sameText, lowerText_names])
    dsimp only
    rw [h.headers.get? (by simpa [sameText_comm] using hne)]

theorem breakLoop (h : Retyped r r') (d : Headers) (url : String) :
    Retyped (r.breakLoop (.scan d) url) (r'.breakLoop (.scan d) url) := by
  unfold Response.breakLoop
  rw [h.loopsTo d url]
  split
  · exact h
  · split
    · exact ⟨rfl, h.body, h.headers.remove_both _⟩
    · exact h

theorem allowReading (h : Retyped r r') (d : Headers) (request : Request) :
    Retyped (r.allowReading (.scan d) request) (r'.allowReading (.scan d) request) := by
  have hpermitted : r'.permittedOrigin (.scan d) request = r.permittedOrigin (.scan d) request := by
    rw [HeaderIndex.scan_eq]
    unfold Response.permittedOrigin
    dsimp only
    cases hk : d.key? allowCredentials with
    | none => rfl
    | some key =>
      have hne : sameText key contentType = false :=
        sameText_of_key?_ne hk (by simp [sameText, lowerText_names])
      have hvalue : r'.headers.get? key = r.headers.get? key :=
        h.headers.get? (by simpa [sameText_comm] using hne)
      rw [Option.bind_some, Option.bind_some, hvalue]
  refine ⟨h.status, h.body, ?_⟩
  unfold Response.allowReading
  rw [hpermitted]
  refine h.headers.set_both (fun n hn => ?_) _
  obtain rfl := List.mem_singleton.mp hn
  rw [sameText_comm, sameText_congr (HeaderIndex.sameText_allowOriginKey d)]
  simp [sameText, lowerText_names]

theorem dropPolicy (h : Retyped r r') (index : HeaderIndex) :
    Retyped (r.dropPolicy index) (r'.dropPolicy index) := by
  unfold Response.dropPolicy
  split
  · exact h
  · exact ⟨h.status, h.body, h.headers.remove_both _⟩

end Response.Retyped

namespace Pass

open Response (Retyped)

variable {r r' decoded decoded' : Response} {d d' : Headers}

/-! ## The steps of a pass on such responses -/

theorem merged_retyped (h : Retyped decoded decoded') (request : Request) :
    Retyped (merged request decoded) (merged request decoded') := by
  unfold merged
  rw [HeaderIndex.scan_of_changedAt h.headers]
  exact h.withContent.mergeQuery decoded.headers request.customQuery

/-- Work on such responses costs the same and leaves the same store. -/
theorem onto_retyped (h : Retyped r r') (d d' : Headers) (proxy : Proxy) (store : Store)
    (request : Request) (kind : Option Kind) :
    let worked := onto proxy store request r (.scan d) kind
    let worked' := onto proxy store request r' (.scan d') kind
    worked'.1 = worked.1 ∧ worked'.2.1 = worked.2.1 ∧ Retyped worked.2.2 worked'.2.2 := by
  cases kind with
  | none => exact ⟨rfl, rfl, h⟩
  | some k =>
    obtain ⟨store', trace, body', hserved⟩ := onto_served proxy store request r.body k
    simp only [hserved r (.scan d) rfl, hserved r' (.scan d') h.body, true_and]
    cases body' with
    | none => exact (h.servedAs k).setMediaType d d' k
    | some body => exact ((h.servedAs k).withBody body).setMediaType d d' k

theorem relax_retyped (h : Retyped r r') (hd : ChangedAt [contentType] d d') (request : Request) :
    (relax request r' (.scan d')).2 = (relax request r (.scan d)).2 ∧
      Retyped (relax request r (.scan d)).1 (relax request r' (.scan d')).1 := by
  have hindex : relax request r' (.scan d') = relax request r' (.scan d) := by
    rw [HeaderIndex.scan_of_changedAt hd]
    rfl
  rw [hindex]
  refine ⟨?_, ((h.breakLoop d request.url).allowReading d request).dropPolicy _⟩
  unfold relax
  rw [h.loopsTo d request.url]

/-- With a hint, passes over responses alike but for their media types end alike. -/
theorem complete_retyped (h : Retyped decoded decoded') (proxy : Proxy) (store : Store)
    {request : Request} {type : String} (htype : hint request decoded.status = some type) :
    let completed := complete proxy store request decoded
    let completed' := complete proxy store request decoded'
    completed'.1 = completed.1 ∧ completed'.2.1 = completed.2.1 ∧
      Retyped completed.2.2.1 completed'.2.2.1 ∧ completed'.2.2.2 = completed.2.2.2 := by
  -- the hint is all that both classifications know of the media type
  have htype' : hint request decoded'.status = some type := by rw [h.status, htype]
  simp only [complete_steps, mediaType_of_hint htype, mediaType_of_hint htype', h.body]
  generalize Classification.classify proxy.checker request.url decoded.body (some type) = classified
  obtain ⟨hstore, htrace, hworked⟩ := onto_retyped (merged_retyped h request) decoded.headers
    decoded'.headers proxy store request classified.1.kind
  obtain ⟨hnote, hrelaxed⟩ := relax_retyped hworked h.headers request
  exact ⟨hstore, by rw [htrace, hnote], hrelaxed, trivial⟩

/-! ## The kind that a hint decides -/

theorem kind_complete (proxy : Proxy) (store : Store) {request : Request} {type : String}
    (htype : hint request decoded.status = some type) :
    (complete proxy store request decoded).2.2.2 =
      Classification.kindOf proxy.checker (lowerText type)
        (Classification.lookedAt decoded.body) := by
  simp only [complete_steps, mediaType_of_hint htype, Classification.classify,
    Classification.decide_eq, Option.getD_some]

/-- What makes a pass take a response for a script whatever it declares. -/
def HintsScript (request : Request) (status : Nat) : Prop :=
  status = 204 ∨ endsText request.path ".js" ∨ request.forceScript

theorem hint_of_script {request : Request} {status : Nat} (h : HintsScript request status) :
    hint request status = some "text/javascript" := by
  unfold hint
  rcases h with h | h | h
  · simp [h]
  · simp [h]
  · simp [h]

theorem hint_of_page {request : Request} {status : Nat} (h : ¬HintsScript request status)
    (hpage : endsText request.path ".html") : hint request status = some "text/html" := by
  unfold hint
  simp only [HintsScript, not_or] at h
  simp [h, hpage]

theorem kindOf_script (checker : Checker) (looked : Bytes) :
    Classification.kindOf checker (lowerText "text/javascript") looked = some .script := by
  have hlower : lowerText "text/javascript" = "text/javascript" := by decide +kernel
  rw [hlower, Classification.kindOf_eq_script]
  exact Or.inr (by decide)

/-- A page that is declared plainly is never left unknown. -/
theorem kindOf_page (checker : Checker) (looked : Bytes) :
    Classification.kindOf checker (lowerText "text/html") looked = some .html ∨
      Classification.kindOf checker (lowerText "text/html") looked = some .script := by
  have hlower : lowerText "text/html" = "text/html" := by decide +kernel
  have hmentions : hasText "text/html" "html" = true := by decide
  rw [hlower]
  unfold Classification.kindOf
  rw [if_pos hmentions]
  split
  · exact Or.inl rfl
  · split
    · exact Or.inr rfl
    · exact Or.inl rfl

/-- **The request's hints dominate the headers.** A pass over a flow without error whose response
can be decoded serves a script if the status or the request hints at one, and else a page or a
script if the path is that of a page. In both cases, with any other media types the pass ends with
the same outcome, store and trace, that is with the same jobs for the tool and the same sources for
the checker, and with a response of the same status, body and other headers. -/
theorem hinted_pass_ignores_media_type (proxy : Proxy) (store : Store) (flow : Flow)
    (before decoded : Response) (herror : flow.error = none)
    (hresponse : flow.response = some before) (hdecode : before.decode = .ok decoded) :
    let r := run proxy store flow
    let script := HintsScript flow.request before.status
    (script → r.outcome = .completed (some .script)) ∧
    (¬script → endsText flow.request.path ".html" →
      r.outcome = .completed (some .html) ∨ r.outcome = .completed (some .script)) ∧
    (script ∨ endsText flow.request.path ".html" → ∀ headers : Headers,
      headers.outside [contentType] = before.headers.outside [contentType] →
      let r' := run proxy store { flow with response := some { before with headers } }
      r'.outcome = r.outcome ∧ r'.store = r.store ∧ r'.trace = r.trace ∧
      ∃ after after', r.flow.response = some after ∧ r'.flow.response = some after' ∧
        after'.status = after.status ∧ after'.body = after.body ∧
        after'.headers.outside [contentType] = after.headers.outside [contentType]) := by
  intro r script
  obtain ⟨-, -, -, hrun⟩ := run_of_decoded
    (Flow.decoded?_eq_some.mpr ⟨herror, before, hresponse, hdecode⟩) proxy store
  have hstatus : decoded.status = before.status := Response.status_decode hdecode
  have hkind : ∀ {type : String}, hint flow.request before.status = some type →
      r.outcome = .completed (Classification.kindOf proxy.checker (lowerText type)
        (Classification.lookedAt decoded.body)) := fun htype => by
    simp only [r, hrun]
    rw [← kind_complete proxy store (by rw [hstatus]; exact htype)]
  refine ⟨fun hscript => ?_, fun hother hpage => ?_, fun hhint headers hsame => ?_⟩
  · rw [hkind (hint_of_script hscript), kindOf_script]
  · rw [hkind (hint_of_page hother hpage)]
    exact (kindOf_page proxy.checker _).imp (congrArg _) (congrArg _)
  · obtain ⟨type, htype⟩ : ∃ type, hint flow.request decoded.status = some type := by
      rw [hstatus]
      by_cases hscript : script
      · exact ⟨_, hint_of_script hscript⟩
      · exact ⟨_, hint_of_page hscript (hhint.resolve_left hscript)⟩
    have hretyped : Retyped before { before with headers } :=
      ⟨rfl, rfl, ChangedAt.of_outside hsame⟩
    obtain ⟨decoded', hdecode', hdecoded⟩ := hretyped.decode hdecode
    obtain ⟨hstore, htrace, hafter, hkinds⟩ := complete_retyped hdecoded proxy store htype
    have hflow : ({ flow with response := some { before with headers } } : Flow).decoded? =
        some decoded' := Flow.decoded?_eq_some.mpr ⟨herror, _, rfl, hdecode'⟩
    obtain ⟨-, -, -, hrun'⟩ := run_of_decoded hflow proxy store
    simp only [r, hrun, hrun']
    exact ⟨congrArg _ hkinds, hstore, htrace, _, _, rfl, rfl, hafter.status, hafter.body,
      hafter.headers.outside fun _ hn => hn⟩

/-- A page that gives two media types, neither that of a page, against one that gives another. -/
theorem hinted_pass_ignores_media_type_for_page :
    let proxy : Proxy := ⟨⟨"cache", false, "coverage"⟩, {},
      Tool.leaving fun job => (.file (47 :: job.source), .ok ()), fun _ => ⟨true, []⟩⟩
    let store : Store := { tree := {}, now := ⟨0, 0, 0⟩, process := 7 }
    let before : Response :=
      { status := 200, body := [97]
        headers := ⟨[("Content-Type", "text/css"), ("Vary", "*"), ("Content-Type", "x/y")]⟩ }
    let headers : Headers := ⟨[("Vary", "*"), ("Content-Type", "application/json")]⟩
    let flow : Flow := { request := { url := "x://h/a.html" }, response := some before }
    let r := run proxy store flow
    let r' := run proxy store { flow with response := some { before with headers } }
    (r.outcome = .completed (some .html) ∨ r.outcome = .completed (some .script)) ∧
      r'.outcome = r.outcome ∧ r'.store = r.store ∧ r'.trace = r.trace := by
  intro proxy store before headers flow r r'
  have hnone : before.headers.get? contentEncoding = none := by decide +kernel
  have hdecode : before.decode = .ok before := by simp [Response.decode, hnone]
  have hpage : endsText flow.request.path ".html" := by decide +kernel
  have hother : ¬HintsScript flow.request before.status := by
    unfold HintsScript
    decide +kernel
  have hsame : headers.outside [contentType] = before.headers.outside [contentType] := by
    decide +kernel
  -- whatever the tool and the store are, so that the pass itself is not evaluated
  clear_value proxy store
  obtain ⟨-, hkind, hretyped⟩ :=
    hinted_pass_ignores_media_type proxy store flow before before rfl rfl hdecode
  obtain ⟨houtcome, hstore, htrace, -⟩ := hretyped (Or.inr hpage) headers hsame
  exact ⟨hkind hother hpage, houtcome, hstore, htrace⟩

end Pass

/-! ## Empty responses -/

namespace Response

/-- A response that lists no encoding but such as leave a body as it is. -/
def Plain (r : Response) : Prop :=
  ∀ value, r.headers.get? contentEncoding = some value → ∀ e ∈ encodings value, e ∈ plainEncodings

theorem decode_empty {r : Response} (hbody : r.body = []) :
    (r.Plain → ∃ decoded, r.decode = .ok decoded ∧ decoded.body = []) ∧
      (¬r.Plain → ∃ fault, r.decode = .error fault) := by
  unfold decode
  cases hg : r.headers.get? contentEncoding with
  | none =>
    refine ⟨fun _ => ⟨r, rfl, hbody⟩, fun hencoded => (hencoded fun value hvalue => ?_).elim⟩
    rw [hg] at hvalue
    cases hvalue
  | some value =>
    have hplain : r.Plain ↔ ∀ e ∈ (encodings value).reverse, e ∈ plainEncodings := by
      simp [Plain, hg]
    have hundo := undoAll_empty (encodings value).reverse
    rw [hbody]
    dsimp only
    refine ⟨fun hp => ?_, fun hp => ?_⟩
    · rw [if_pos (hplain.mp hp)] at hundo
      cases hu : undoAll (encodings value).reverse [] with
      | error fault => simp [hu, Except.toOption] at hundo
      | ok body =>
        have hempty : body = [] := by simpa [hu, Except.toOption] using hundo
        exact ⟨_, rfl, hempty⟩
    · rw [if_neg ((not_congr hplain).mp hp)] at hundo
      cases hu : undoAll (encodings value).reverse [] with
      | error fault => exact ⟨fault, rfl⟩
      | ok body => simp [hu, Except.toOption] at hundo

end Response

namespace Pass

/-- **An empty response without content becomes a script, unless it lists an encoding.** Whatever
its other headers, the request, the store, the tool and the checker are, it is served as a script
with the status of one with content, or as a failure if it leads to the request itself. But an
encoding that does something cannot be undone on an empty body: then the pass fails, and the
response stays as it was. -/
theorem empty_response_becomes_script (proxy : Proxy) (store : Store) (flow : Flow) (r : Response)
    (herror : flow.error = none) (hresponse : flow.response = some r) (hstatus : r.status = 204)
    (hbody : r.body = []) :
    let result := run proxy store flow
    (r.Plain → result.outcome = .completed (some .script) ∧
      ∃ after, result.flow.response = some after ∧
        after.headers.getAll contentType = ["text/javascript"] ∧
        after.status = if r.headers.get? location = some flow.request.url then 500 else 200) ∧
    (¬r.Plain → result.outcome = .failed ∧ result.flow.response = some r) := by
  intro result
  refine ⟨fun hplain => ?_, fun hencoded => ?_⟩
  · obtain ⟨decoded, hdecode, hempty⟩ := (Response.decode_empty hbody).1 hplain
    obtain ⟨-, -, -, hrun⟩ := run_of_decoded
      (Flow.decoded?_eq_some.mpr ⟨herror, r, hresponse, hdecode⟩) proxy store
    have hhint : hint flow.request decoded.status = some "text/javascript" :=
      hint_of_script (Or.inl (by rw [Response.status_decode hdecode, hstatus]))
    have hkind : (complete proxy store flow.request decoded).2.2.2 = some .script := by
      rw [kind_complete proxy store hhint, kindOf_script]
    obtain ⟨hbefore, hencoding⟩ := Response.changedAt_decode hdecode
    have hrelaxed := complete_relaxed proxy store flow.request hbefore hencoding
    have hled := complete_led proxy store flow.request hdecode
    have hblank : Sniff.looksLikeHtml (Classification.lookedAt decoded.body) = false := by
      rw [hempty]
      exact Classification.looksLikeHtml_nil
    have htarget : r.target? flow.request.customQuery = r.headers.get? location := by
      simp [Response.target?, hstatus]
    simp only [result, hrun, hkind, true_and]
    refine ⟨_, rfl, hrelaxed.mediaType .script hkind, ?_⟩
    rw [hled.status, htarget, hstatus, hblank]
    simp
  · obtain ⟨fault, hdecode⟩ := (Response.decode_empty hbody).2 hencoded
    have hundecoded : flow.decoded? = none := by
      simp [Flow.decoded?, herror, hresponse, hdecode, Except.toOption]
    obtain ⟨trace, -, -, hrun⟩ := run_of_undecoded hundecoded
    simp only [result, hrun, herror, hresponse, and_true]
    rfl

/-- Listed as compressed, the empty body is in no encoding; listed as itself, it is. -/
theorem empty_response_becomes_script_unless_compressed :
    let proxy : Proxy := ⟨⟨"cache", true, "coverage"⟩, {},
      Tool.leaving fun _ => (.nothing, .error .noResponse), fun _ => ⟨true, []⟩⟩
    let store : Store := { tree := {}, now := ⟨0, 0, 0⟩, process := 7 }
    let listing (value : String) : Response :=
      { status := 204, headers := ⟨[(contentEncoding, value), (location, "x://h/b")]⟩ }
    let pass (value : String) : Result :=
      run proxy store { request := { url := "x://h/a" }, response := some (listing value) }
    (pass "Identity").outcome = .completed (some .script) ∧
      (∃ after, (pass "Identity").flow.response = some after ∧ after.status = 200) ∧
      (pass "gzip").outcome = .failed ∧ (pass "gzip").flow.response = some (listing "gzip") := by
  intro proxy store listing pass
  have hvalue : ∀ value, (listing value).headers.get? contentEncoding = some value := fun value =>
    by simp [listing, get?, named, sameText_self]
  have hlocation : ∀ value, (listing value).headers.get? location ≠ some "x://h/a" := fun value =>
    by simp [listing, get?, named, sameText, lowerText_names]
  have hplain : (listing "Identity").Plain := by
    intro value hv
    obtain rfl : "Identity" = value := Option.some.inj ((hvalue _).symm.trans hv)
    decide +kernel
  have hcompressed : ¬(listing "gzip").Plain := by
    intro hplain
    have hgzip := hplain "gzip" (hvalue _)
    revert hgzip
    decide +kernel
  -- whatever the tool and the store are, so that the passes themselves are not evaluated
  clear_value proxy store
  obtain ⟨hscript, -⟩ := empty_response_becomes_script proxy store
    { request := { url := "x://h/a" }, response := some (listing "Identity") } _ rfl rfl rfl rfl
  obtain ⟨-, hfails⟩ := empty_response_becomes_script proxy store
    { request := { url := "x://h/a" }, response := some (listing "gzip") } _ rfl rfl rfl rfl
  obtain ⟨hkind, after, hafter, -, hstatus⟩ := hscript hplain
  rw [if_neg (hlocation _)] at hstatus
  exact ⟨hkind, ⟨after, hafter, hstatus⟩, hfails hcompressed⟩

end Pass

end Interpose
