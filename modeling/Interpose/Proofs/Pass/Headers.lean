import Interpose.Proofs.Pass.Steps
import Interpose.Proofs.Http.Headers

/-!
# The headers of a completed pass

Decoding, carrying a query on, setting a body, breaking a loop and dropping the policy each change
the headers at one or two names (`changedAt_decode` and its like). Setting the media type and
letting the origin read leave one entry each. Since all of them write under the spelling that the
index found, or under the name itself, no two of them meet, and what a completed pass does to the
headers can be told name by name (`Relaxed`, `completed_relaxed`).
-/

namespace Interpose

open Headers
open Cache (Store)

/-! ## What each change does -/

namespace Response

theorem changedAt_withBody (r : Response) (body : Bytes) :
    ChangedAt [contentLength] r.headers (r.withBody body).headers := by
  unfold withBody
  dsimp only
  split
  · exact ChangedAt.set (sameText_self _) _ _
  · exact ChangedAt.refl _ _

theorem changedAt_decode {r decoded : Response} (h : r.decode = .ok decoded) :
    ChangedAt [contentEncoding, contentLength] r.headers decoded.headers ∧
      decoded.headers.contains contentEncoding = false := by
  obtain ⟨hnone, rfl⟩ | ⟨value, body, -, -, rfl⟩ := decode_eq_ok h
  · exact ⟨ChangedAt.refl _ _, get?_eq_none.mp hnone⟩
  · have hremove := ChangedAt.remove (sameText_self contentEncoding) r.headers
    have hbody := changedAt_withBody { r with headers := r.headers.remove contentEncoding } body
    refine ⟨(hremove.mono (by simp)).trans (hbody.mono (by simp)), ?_⟩
    rw [hbody.contains (by simp [sameText, lowerText_names])]
    exact contains_remove (sameText_self _) _

variable {h : Headers} {r : Response}

theorem changedAt_mergeQuery (h : Headers) (r : Response) (pieces : List String) :
    ChangedAt [location] r.headers (r.mergeQuery (.scan h) pieces).headers := by
  rw [HeaderIndex.scan_eq]
  unfold mergeQuery
  dsimp only
  split
  · cases hk : h.key? location with
    | none => exact ChangedAt.refl _ _
    | some key =>
      dsimp only
      cases r.headers.get? key with
      | none => exact ChangedAt.refl _ _
      | some target => exact ChangedAt.set (key?_eq_some hk).1 _ _
  · exact ChangedAt.refl _ _

theorem changedAt_breakLoop (h : Headers) (r : Response) (url : String) :
    ChangedAt [location] r.headers (r.breakLoop (.scan h) url).headers := by
  rw [HeaderIndex.scan_eq]
  unfold breakLoop
  dsimp only
  cases hk : h.key? location with
  | none => exact ChangedAt.refl _ _
  | some key =>
    dsimp only
    split
    · exact ChangedAt.remove (key?_eq_some hk).1 _
    · exact ChangedAt.refl _ _

theorem changedAt_allowReading (h : Headers) (r : Response) (request : Request) :
    ChangedAt [allowOrigin] r.headers (r.allowReading (.scan h) request).headers :=
  ChangedAt.set (HeaderIndex.sameText_allowOriginKey h) _ _

theorem changedAt_dropPolicy (h : Headers) (r : Response) :
    ChangedAt [contentSecurityPolicy] r.headers (r.dropPolicy (.scan h)).headers := by
  rw [HeaderIndex.scan_eq]
  unfold dropPolicy
  dsimp only
  cases hk : h.key? contentSecurityPolicy with
  | none => exact ChangedAt.refl _ _
  | some key => exact ChangedAt.remove (key?_eq_some hk).1 _

/-- Dropping the policy leaves none, if the index is that of a list with the same policies. -/
theorem contains_dropPolicy {h : Headers} {r : Response}
    (hsame : r.headers.contains contentSecurityPolicy = h.contains contentSecurityPolicy) :
    (r.dropPolicy (.scan h)).headers.contains contentSecurityPolicy = false := by
  rw [HeaderIndex.scan_eq]
  unfold dropPolicy
  dsimp only
  cases hk : h.key? contentSecurityPolicy with
  | none => exact hsame.trans (key?_eq_none.mp hk)
  | some key => exact contains_remove (key?_eq_some hk).1 _

end Response

/-- The origin that may read a response: the requesting one if the response takes credentials. -/
def grantedOrigin (request : Request) (h : Headers) : String :=
  if h.get? allowCredentials = some "true" then (request.headers.get? Headers.origin).getD "*"
  else "*"

theorem Response.permittedOrigin_scan {h : Headers} {r : Response}
    (hsame : r.headers.get? allowCredentials = h.get? allowCredentials) (request : Request) :
    r.permittedOrigin (.scan h) request = grantedOrigin request h := by
  have hvalue : (h.key? allowCredentials).bind r.headers.get? = h.get? allowCredentials := by
    cases hk : h.key? allowCredentials with
    | none => exact (get?_eq_none.mpr (key?_eq_none.mp hk)).symm
    | some key => exact (get?_congr (key?_eq_some hk).1).trans hsame
  rw [HeaderIndex.scan_eq]
  unfold Response.permittedOrigin grantedOrigin
  simp only [hvalue]
  by_cases ht : h.get? allowCredentials = some "true"
  · rw [if_pos ht, ht]
    cases request.headers.get? Headers.origin <;> rfl
  · rw [if_neg ht, beq_eq_false_iff_ne.mpr ht]

/-! ## Completed passes -/

/-- The names under which a pass may leave something else than it found. -/
def rewrittenNames : List String :=
  [contentEncoding, contentLength, contentType, location, allowOrigin, contentSecurityPolicy]

/-- The names whose entries are left out where the places of the others are told. -/
def droppedNames : List String := [contentEncoding, contentLength, location, contentSecurityPolicy]

/-- What a completed pass of a kind does to the headers of a response. -/
structure Relaxed (request : Request) (kind : Option Kind) (before after : Headers) : Prop where
  /-- Entries under other names are the same, in the same order and spelling. -/
  others : after.outside rewrittenNames = before.outside rewrittenNames
  /-- No encoding is left. -/
  encoding : after.contains contentEncoding = false
  /-- No policy is left. -/
  policy : after.contains contentSecurityPolicy = false
  /-- One origin may read. -/
  origin : after.getAll allowOrigin = [grantedOrigin request before]
  /-- A known kind leaves its media type. -/
  mediaType : ∀ k, kind = some k → after.getAll contentType = [k.mediaType]
  /-- An unknown kind leaves the media types as they are. -/
  sameMediaType : kind = none → after.under contentType = before.under contentType
  /-- The media type and then the origin are each left in the place and spelling of the first entry
  under their name, or at the end under the name itself. -/
  placed : ∃ es,
    (∀ k, kind = some k → Placed contentType k.mediaType (before.outside droppedNames) es) ∧
    (kind = none → es = before.outside droppedNames) ∧
    Placed allowOrigin (grantedOrigin request before) es (after.outside droppedNames)

namespace Pass

theorem changedAt_setMediaType (r : Response) (d : Headers) (kind : Kind) :
    ChangedAt [contentType] r.headers (setMediaType r (.scan d) kind).headers :=
  ChangedAt.set (HeaderIndex.sameText_contentTypeKey d) _ _

/-- Content of a known kind has its body replaced or kept, and then its media type set. -/
theorem onto_headers (proxy : Proxy) (store : Store) (request : Request) (r : Response)
    (index : HeaderIndex) (kind : Kind) :
    ∃ h, ChangedAt [contentLength] r.headers h ∧
      (onto proxy store request r index (some kind)).2.2.headers =
        h.set index.contentTypeKey kind.mediaType := by
  obtain ⟨store', trace, body', hserved⟩ := onto_served proxy store request r.body kind
  refine ⟨_, ?_, by rw [hserved r index rfl]; rfl⟩
  rw [← headers_servedAs kind r]
  cases body' with
  | none => exact ChangedAt.refl _ _
  | some body => exact (servedAs kind r).changedAt_withBody body

/-- Content of a kind changes the body's length and media type only, and that of no kind nothing. -/
theorem onto_relaxed {d : Headers} {r : Response} (hd : ChangedAt [location] d r.headers)
    (proxy : Proxy) (store : Store) (request : Request) (kind : Option Kind) :
    ChangedAt [contentLength, contentType] r.headers
        (onto proxy store request r (.scan d) kind).2.2.headers ∧
      (∀ k, kind = some k → Placed contentType k.mediaType (r.headers.outside droppedNames)
        ((onto proxy store request r (.scan d) kind).2.2.headers.outside droppedNames)) ∧
      (kind = none → (onto proxy store request r (.scan d) kind).2.2 = r) := by
  cases kind with
  | none =>
    refine ⟨ChangedAt.refl _ _, fun k hk => ?_, fun _ => rfl⟩
    cases hk
  | some k =>
    obtain ⟨h, hbody, he⟩ :=
      onto_headers proxy store request r (.scan d) k
    have hset : h.set (HeaderIndex.scan d).contentTypeKey k.mediaType =
        h.set contentType k.mediaType := by
      rw [HeaderIndex.contentTypeKey_scan]
      refine set_spelling (fun hc => ?_) _
      rw [hbody.contains (by simp [sameText, lowerText_names]),
        hd.contains (by simp [sameText, lowerText_names])]
      exact hc
    rw [he, hset]
    refine ⟨(hbody.mono (by simp)).trans ((ChangedAt.set (sameText_self _) _ _).mono (by simp)),
      fun k' hk => ?_, fun hk => (Option.some_ne_none k hk).elim⟩
    obtain rfl := Option.some.inj hk
    rw [← hbody.outside (by decide)]
    exact outside_set (by simp [droppedNames, sameText, lowerText_names]) h _

/-- Relaxing leaves no policy and one origin that may read. -/
theorem relax_relaxed {d : Headers} {r : Response}
    (hd : ChangedAt [contentLength, contentType, location] d r.headers) (request : Request) :
    ChangedAt [location, allowOrigin, contentSecurityPolicy] r.headers
        (relax request r (.scan d)).1.headers ∧
      (relax request r (.scan d)).1.headers.contains contentSecurityPolicy = false ∧
      Placed allowOrigin (grantedOrigin request d) (r.headers.outside droppedNames)
        ((relax request r (.scan d)).1.headers.outside droppedNames) := by
  have hloop := Response.changedAt_breakLoop d r request.url
  have hset : ((r.breakLoop (.scan d) request.url).allowReading (.scan d) request).headers =
      (r.breakLoop (.scan d) request.url).headers.set allowOrigin (grantedOrigin request d) := by
    have hcredentials : (r.breakLoop (.scan d) request.url).headers.get? allowCredentials =
        d.get? allowCredentials := by
      rw [hloop.get? (by simp [sameText, lowerText_names]),
        hd.get? (by simp [sameText, lowerText_names])]
    unfold Response.allowReading
    dsimp only
    rw [Response.permittedOrigin_scan hcredentials, HeaderIndex.allowOriginKey_scan]
    refine set_spelling (fun hc => ?_) _
    rw [hloop.contains (by simp [sameText, lowerText_names]),
      hd.contains (by simp [sameText, lowerText_names])]
    exact hc
  have hread := Response.changedAt_allowReading d (r.breakLoop (.scan d) request.url) request
  have hdrop := Response.changedAt_dropPolicy d
    ((r.breakLoop (.scan d) request.url).allowReading (.scan d) request)
  have hpolicy := Response.contains_dropPolicy (h := d)
    (r := (r.breakLoop (.scan d) request.url).allowReading (.scan d) request) (by
      rw [hread.contains (by simp [sameText, lowerText_names]),
        hloop.contains (by simp [sameText, lowerText_names]),
        hd.contains (by simp [sameText, lowerText_names])])
  refine ⟨(hloop.mono (by simp)).trans ((hread.mono (by simp)).trans (hdrop.mono (by simp))),
    hpolicy, ?_⟩
  rw [relax, hdrop.outside (by decide), hset, ← hloop.outside (by decide)]
  exact outside_set (by simp [droppedNames, sameText, lowerText_names]) _ _

/-- Working on a response whose headers differ from others in encoding and length only. -/
theorem complete_relaxed {before : Headers} {decoded : Response} (proxy : Proxy) (store : Store)
    (request : Request)
    (hbefore : ChangedAt [contentEncoding, contentLength] before decoded.headers)
    (hencoding : decoded.headers.contains contentEncoding = false) :
    Relaxed request (complete proxy store request decoded).2.2.2 before
      (complete proxy store request decoded).2.2.1.headers := by
  unfold complete
  simp only [headers_withContent]
  generalize hr : (withContent decoded).mergeQuery (.scan decoded.headers) request.customQuery = r
  have hquery : ChangedAt [location] decoded.headers r.headers := by
    rw [← hr, ← headers_withContent decoded]
    exact Response.changedAt_mergeQuery _ _ _
  generalize (Classification.classify proxy.checker request.url r.body _).1.kind = kind
  obtain ⟨honto, hkind, hnone⟩ := onto_relaxed hquery proxy store request kind
  generalize (onto proxy store request r (.scan decoded.headers) kind).2.2 = r'
    at honto hkind hnone
  have hdecoded : ChangedAt [contentLength, contentType, location] decoded.headers r'.headers :=
    (hquery.mono (by simp)).trans (honto.mono (by simp))
  obtain ⟨hrelax, hpolicy, horigin⟩ := relax_relaxed hdecoded request
  have hgranted : grantedOrigin request decoded.headers = grantedOrigin request before := by
    unfold grantedOrigin
    rw [hbefore.get? (by simp [sameText, lowerText_names])]
  have hall : ChangedAt rewrittenNames before
      (relax request r' (.scan decoded.headers)).1.headers :=
    (hbefore.mono (by simp [rewrittenNames])).trans
      ((hdecoded.mono (by simp [rewrittenNames])).trans (hrelax.mono (by simp [rewrittenNames])))
  have hfound : r.headers.outside droppedNames = before.outside droppedNames := by
    rw [hquery.outside (by decide), hbefore.outside (by decide)]
  rw [hgranted] at horigin
  rw [hfound] at hkind
  refine ⟨hall.outside fun _ hn => hn, ?_, hpolicy, ?_, fun k hk => ?_, fun hk => ?_,
    ⟨_, hkind, fun hk => by rw [hnone hk, hfound], horigin⟩⟩
  · rw [hrelax.contains (by simp [sameText, lowerText_names]),
      hdecoded.contains (by simp [sameText, lowerText_names])]
    exact hencoding
  · rw [getAll_eq,
      ← filter_outside droppedNames (by simp [droppedNames, sameText, lowerText_names])]
    exact horigin.values
  · rw [getAll_eq, hrelax.under (by simp [sameText, lowerText_names]),
      ← filter_outside droppedNames (by simp [droppedNames, sameText, lowerText_names])]
    exact (hkind k hk).values
  · rw [hrelax.under (by simp [sameText, lowerText_names]), hnone hk,
      hquery.under (by simp [sameText, lowerText_names]),
      hbefore.under (by simp [sameText, lowerText_names])]

/-- **The headers of a completed pass.** Whatever the store, the tool and the checker do, entries of
other names stay as they are, no encoding and no policy is left, one origin may read, and the media
type is that of the kind. -/
theorem completed_relaxed (proxy : Proxy) (store : Store) (flow : Flow) (kind : Option Kind)
    (h : (run proxy store flow).outcome = .completed kind) :
    ∃ before after, flow.response = some before ∧
      (run proxy store flow).flow = { flow with response := some after } ∧
      Relaxed flow.request kind before.headers after.headers := by
  unfold run at h ⊢
  cases he : flow.error with
  | some error => simp [he] at h
  | none =>
    cases hr : flow.response with
    | none => simp [he, hr] at h
    | some response =>
      simp only [he, hr] at h ⊢
      cases hd : response.decode with
      | error fault => simp [hd] at h
      | ok decoded =>
        simp only [hd, Outcome.completed.injEq] at h ⊢
        obtain ⟨hbefore, hencoding⟩ := Response.changedAt_decode hd
        have hrelaxed := complete_relaxed proxy store flow.request hbefore hencoding
        rw [h] at hrelaxed
        exact ⟨response, _, rfl, rfl, hrelaxed⟩

/-- A script whose tool fails, from a response with doubled names in several spellings. -/
theorem completed_relaxed_for_script :
    let proxy : Proxy := ⟨⟨"cache", true, "coverage"⟩, {},
      Tool.leaving fun _ => (.nothing, .error .noResponse), fun _ => ⟨false, []⟩⟩
    let store : Store := { tree := {}, now := ⟨0, 0, 0⟩, process := 7 }
    let headers : Headers :=
      ⟨[("set-cookie", "a=1"), ("content-TYPE", "text/plain"), ("Set-Cookie", "b=2"),
        ("Content-Type", "text/css"), ("content-security-policy", "default-src"),
        ("Content-Security-Policy", "img-src"), ("access-control-allow-credentials", "true")]⟩
    let flow : Flow :=
      { request := { url := "x://h/app.js", headers := ⟨[("ORIGIN", "https://page")]⟩ }
        response := some { status := 200, headers, body := [97] } }
    ∃ before after, flow.response = some before ∧
      (run proxy store flow).flow = { flow with response := some after } ∧
      Relaxed flow.request (some .script) before.headers after.headers := by
  intro proxy store headers flow
  have hscript : (run proxy store flow).outcome = .completed (some .script) := by decide +kernel
  exact completed_relaxed proxy store flow (some .script) hscript

end Pass

end Interpose
