import Interpose.Proofs.Cache.Call
import Interpose.Proofs.Classification
import Interpose.Proofs.Pass.Ending
import Interpose.Proofs.Pass.Headers

/-!
# What the tool decides

A pass has its body instrumented at most once: when it takes it for HTML that is not blank or for a
script that is no HTML page, and that kind is switched on (`handed`). The answer to this attempt is
all that a pass takes from the tool (`run_attempt`), and it enters the response as its body.
Everything else that a pass leaves in a flow is the same whatever the tool does: the outcome, the
request, the error, the status and the headers, of the length only the value apart
(`tool_decides_body_only`).
-/

namespace Interpose

open Headers
open Cache (Store Answer Instrumented)

/-! ## What is handed out -/

namespace Classification

theorem jobs_asScript (checker : Checker) (looked : Bytes) :
    (asScript checker looked).2.jobs = [] := by
  unfold asScript
  split <;> rfl

theorem jobs_decide (checker : Checker) (url declared : String) (looked : Bytes) :
    (decide checker url declared looked).2.jobs = [] := by
  have hasked := jobs_asScript checker looked
  unfold decide
  dsimp only
  repeat' split
  all_goals simp [hasked, mismatchNote]

theorem jobs_classify (checker : Checker) (url : String) (body : Bytes) (declared : Option String) :
    (classify checker url body declared).2.jobs = [] := by
  simp only [classify, Trace.jobs_append, Trace.jobs_normalizing, jobs_decide, List.append_nil]

end Classification

namespace Pass

/-- The kind as which a pass has a body of some kind instrumented, if it does. -/
def handed (switches : Switches) (body : Bytes) : Option Kind → Option Kind
  | some .html => if switches.html && !(Bytes.trim body).isEmpty then some .html else none
  | some .script =>
    if switches.script && !Sniff.looksLikeHtml (Classification.lookedAt body) then some .script
    else none
  | none => none

variable {proxy : Proxy} {store : Store} {request : Request} {r r' : Response}
  {kind : Option Kind} {k : Kind}

theorem jobs_instrumented (proxy : Proxy) (store : Store) (request : Request) (body : Bytes)
    (kind : Kind) : (instrumented proxy store request body kind).2.1.jobs =
      (Cache.instrument proxy.settings proxy.tool store request body kind).trace.jobs := by
  unfold instrumented
  simp only
  split
  · rfl
  · simp [Trace.warn]

/-- A body that is handed on is replaced by its instrumented form. -/
theorem onto_of_handed (store : Store) (request : Request) (index : HeaderIndex)
    (h : handed proxy.switches r.body kind = some k) :
    (onto proxy store request r index kind).1 = (instrumented proxy store request r.body k).1 ∧
    (onto proxy store request r index kind).2.1.jobs =
      (instrumented proxy store request r.body k).2.1.jobs ∧
    (onto proxy store request r index kind).2.2 =
      setMediaType (r.withBody (instrumented proxy store request r.body k).2.2) index k := by
  match kind with
  | none => cases h
  | some .html =>
    simp only [handed, Option.ite_none_right_eq_some, Bool.and_eq_true, Bool.not_eq_true',
      Option.some.injEq] at h
    obtain ⟨⟨hswitch, hblank⟩, rfl⟩ := h
    simp [onto, ontoHtml, hswitch, hblank]
  | some .script =>
    simp only [handed, Option.ite_none_right_eq_some, Bool.and_eq_true, Bool.not_eq_true',
      Option.some.injEq] at h
    obtain ⟨⟨hswitch, hlooks⟩, rfl⟩ := h
    simp [onto, ontoScript, hswitch, hlooks, Trace.jobs_normalizing]

/-- A body that is not handed on has the same fate with any store and tool. -/
theorem onto_of_not_handed (store : Store) (request : Request) (index : HeaderIndex)
    (h : handed proxy.switches r.body kind = none) :
    (onto proxy store request r index kind).1 = store ∧
    (onto proxy store request r index kind).2.1.jobs = [] ∧
    ∀ tool store', (onto { proxy with tool } store' request r index kind).2.2 =
      (onto proxy store request r index kind).2.2 := by
  match kind with
  | none => exact ⟨rfl, rfl, fun _ _ => rfl⟩
  | some .html =>
    simp only [handed, ite_eq_right_iff, reduceCtorEq, imp_false, Bool.and_eq_true, not_and] at h
    unfold onto ontoHtml
    simp only
    split
    · rename_i hswitch
      have hblank : (Bytes.trim r.body).isEmpty = true := by simpa using h hswitch
      simp [hblank]
    · exact ⟨rfl, rfl, fun _ _ => rfl⟩
  | some .script =>
    simp only [handed, ite_eq_right_iff, reduceCtorEq, imp_false, Bool.and_eq_true, not_and] at h
    unfold onto ontoScript
    simp only
    split
    · exact ⟨rfl, by simp [Trace.jobs_normalizing, Trace.warn], fun _ _ => rfl⟩
    · rename_i hlooks
      have hswitch : ¬proxy.switches.script = true :=
        fun hswitch => h hswitch (by simpa using hlooks)
      simp [hswitch, Trace.jobs_normalizing]

variable {decoded : Response}

theorem changedAt_merged (request : Request) (decoded : Response) :
    ChangedAt [location] decoded.headers (merged request decoded).headers := by
  rw [merged, ← headers_withContent decoded]
  exact Response.changedAt_mergeQuery _ _ _

/-- Up to the relaxing of its headers, a pass changes length, media type and target only. -/
theorem changedAt_worked (proxy : Proxy) (store : Store) (request : Request) (decoded : Response)
    (kind : Option Kind) :
    ChangedAt [contentLength, contentType, location] decoded.headers
      (onto proxy store request (merged request decoded) (.scan decoded.headers) kind).2.2.headers := by
  have hquery := changedAt_merged request decoded
  obtain ⟨honto, -, -⟩ := onto_relaxed hquery proxy store request kind
  exact (hquery.mono (by simp)).trans (honto.mono (by simp))

theorem jobs_relax (request : Request) (r : Response) (index : HeaderIndex) :
    (relax request r index).2.jobs = [] := by
  unfold relax
  dsimp only
  split
  · rfl
  · rfl

/-- A pass completes by working on the content and then relaxing the headers. -/
theorem complete_eq (proxy : Proxy) (store : Store) (request : Request) (decoded : Response) :
    let completed := complete proxy store request decoded
    let worked := onto proxy store request (merged request decoded) (.scan decoded.headers)
      completed.2.2.2
    completed.1 = worked.1 ∧ completed.2.1.jobs = worked.2.1.jobs ∧
      completed.2.2.1 = (relax request worked.2.2 (.scan decoded.headers)).1 := by
  simp only [complete_steps, Trace.jobs_append, Classification.jobs_classify, jobs_relax,
    Trace.debug, Trace.jobs_note, List.nil_append, List.append_nil, and_self]

/-- A pass that completes hands its decoded body on, or leaves the store alone. -/
theorem complete_of_handed
    (h : handed proxy.switches decoded.body (complete proxy store request decoded).2.2.2 = some k) :
    let answer := Cache.instrument proxy.settings proxy.tool store request decoded.body k
    (complete proxy store request decoded).1 = answer.store ∧
    (complete proxy store request decoded).2.1.jobs = answer.trace.jobs ∧
    (complete proxy store request decoded).2.2.1.body =
      (answer.result.toOption.map (·.body)).getD decoded.body := by
  obtain ⟨hstore, hjobs, hresponse⟩ := complete_eq proxy store request decoded
  rw [← body_merged request decoded] at h
  obtain ⟨hstore', hjobs', hresponse'⟩ :=
    onto_of_handed store request (.scan decoded.headers) h
  rw [hstore, hstore', hjobs, hjobs', hresponse, body_relax, hresponse', instrumented_store,
    jobs_instrumented, body_merged]
  refine ⟨rfl, rfl, ?_⟩
  rw [← instrumented_body]
  rfl

theorem complete_of_not_handed
    (h : handed proxy.switches decoded.body (complete proxy store request decoded).2.2.2 = none) :
    (complete proxy store request decoded).1 = store ∧
    (complete proxy store request decoded).2.1.jobs = [] := by
  obtain ⟨hstore, hjobs, -⟩ := complete_eq proxy store request decoded
  rw [← body_merged request decoded] at h
  obtain ⟨hstore', hjobs', -⟩ :=
    onto_of_not_handed store request (.scan decoded.headers) h
  exact ⟨hstore.trans hstore', hjobs.trans hjobs'⟩

/-! ## The attempt of a pass -/

/-- The answer to the attempt of a pass to have its body instrumented, if it makes one. -/
def attempt? (proxy : Proxy) (store : Store) (flow : Flow) : Option (Answer Instrumented) :=
  flow.decoded?.bind fun decoded =>
    let kind := (complete proxy store flow.request decoded).2.2.2
    (handed proxy.switches decoded.body kind).map fun k =>
      Cache.instrument proxy.settings proxy.tool store flow.request decoded.body k

/-- **A pass changes the store and runs the tool in its attempt only**, and the body after an
attempt is the instrumented one or, if the attempt fails, the decoded one. -/
theorem run_attempt (proxy : Proxy) (store : Store) (flow : Flow) :
    (run proxy store flow).store = ((attempt? proxy store flow).map (·.store)).getD store ∧
    (run proxy store flow).trace.jobs =
      ((attempt? proxy store flow).map (·.trace.jobs)).getD [] ∧
    ∀ answer, attempt? proxy store flow = some answer → ∃ decoded after,
      flow.decoded? = some decoded ∧ (run proxy store flow).flow.response = some after ∧
        after.body = (answer.result.toOption.map (·.body)).getD decoded.body := by
  cases hd : flow.decoded? with
  | none =>
    obtain ⟨trace, hjobs, -, hrun⟩ := run_of_undecoded hd
    simp [attempt?, hd, hrun, hjobs]
  | some decoded =>
    obtain ⟨-, -, -, hrun⟩ := run_of_decoded hd proxy store
    cases hh : handed proxy.switches decoded.body
      (complete proxy store flow.request decoded).2.2.2 with
    | none =>
      obtain ⟨hstore, hjobs⟩ := complete_of_not_handed hh
      simp [attempt?, hd, hh, hrun, hstore, hjobs]
    | some k =>
      obtain ⟨hstore, hjobs, hbody⟩ := complete_of_handed hh
      simp [attempt?, hd, hh, hrun, hstore, hjobs, hbody]

/-! ## Responses alike but for the body -/

/-- No name with a spelling in the index is that of the body's length. -/
theorem length_ne_of_slot {name : String} {field : HeaderIndex → Option String}
    (hs : (name, field) ∈ HeaderIndex.slots) : sameText contentLength name = false := by
  simp only [HeaderIndex.slots, List.mem_cons, List.not_mem_nil, or_false, Prod.mk.injEq] at hs
  rcases hs with ⟨rfl, -⟩ | ⟨rfl, -⟩ | ⟨rfl, -⟩ | ⟨rfl, -⟩ | ⟨rfl, -⟩ | ⟨rfl, -⟩ | ⟨rfl, -⟩ <;>
    simp [sameText, lowerText_names]

theorem length_ne_of_scan {name : String} {field : HeaderIndex → Option String}
    (hs : (name, field) ∈ HeaderIndex.slots) {d : Headers} {key : String}
    (hk : field (.scan d) = some key) : sameText contentLength key = false := by
  rw [HeaderIndex.scan_slot hs] at hk
  rw [sameText_congr (key?_eq_some hk).1]
  exact length_ne_of_slot hs

theorem length_ne_getD {name : String} {field : HeaderIndex → Option String}
    (hs : (name, field) ∈ HeaderIndex.slots) (d : Headers) :
    sameText contentLength ((field (.scan d)).getD name) = false := by
  cases hk : field (.scan d) with
  | none => exact length_ne_of_slot hs
  | some key => exact length_ne_of_scan hs hk

end Pass

/-- Responses that may differ in the body and in the values that give its length. -/
structure Response.Alike (r r' : Response) : Prop where
  status : r'.status = r.status
  headers : r'.headers.blanked contentLength = r.headers.blanked contentLength

namespace Response.Alike

variable {r r' : Response}

theorem refl (r : Response) : Alike r r := ⟨rfl, rfl⟩

theorem withBody (r : Response) (body body' : Bytes) :
    Alike (r.withBody body) (r.withBody body') := by
  refine ⟨rfl, ?_⟩
  unfold Response.withBody
  dsimp only
  split
  · rw [blanked_set_self, blanked_set_self]
  · rfl

theorem get? (h : Alike r r') {m : String} (hm : sameText contentLength m = false) :
    r'.headers.get? m = r.headers.get? m := by
  rw [← get?_blanked hm, h.headers, get?_blanked hm]

theorem set (h : Alike r r') {key : String} (hk : sameText contentLength key = false)
    (value : String) :
    Alike { r with headers := r.headers.set key value }
      { r' with headers := r'.headers.set key value } := by
  rw [sameText_comm] at hk
  refine ⟨h.status, ?_⟩
  rw [blanked_set_other _ hk, blanked_set_other _ hk, h.headers]

theorem remove (h : Alike r r') (key : String) :
    Alike { r with headers := r.headers.remove key }
      { r' with headers := r'.headers.remove key } := by
  refine ⟨h.status, ?_⟩
  rw [blanked_remove, blanked_remove, h.headers]

theorem setMediaType (h : Alike r r') (d : Headers) (kind : Kind) :
    Alike (Pass.setMediaType r (.scan d) kind) (Pass.setMediaType r' (.scan d) kind) := by
  have hslot : (contentType, HeaderIndex.contentType) ∈ HeaderIndex.slots := by
    simp [HeaderIndex.slots]
  exact h.set (Pass.length_ne_getD hslot d) _

theorem breakLoop (h : Alike r r') (d : Headers) (url : String) :
    Alike (r.breakLoop (.scan d) url) (r'.breakLoop (.scan d) url) := by
  have hslot : (location, HeaderIndex.location) ∈ HeaderIndex.slots := by
    simp [HeaderIndex.slots]
  unfold Response.breakLoop
  cases hk : (HeaderIndex.scan d).location with
  | none => exact h
  | some key =>
    have hloops : r'.loopsTo (.scan d) url = r.loopsTo (.scan d) url := by
      simp only [Response.loopsTo, hk, h.get? (Pass.length_ne_of_scan hslot hk)]
    dsimp only
    rw [hloops]
    split
    · exact ⟨rfl, (h.remove key).headers⟩
    · exact h

theorem allowReading (h : Alike r r') (d : Headers) (request : Request) :
    Alike (r.allowReading (.scan d) request) (r'.allowReading (.scan d) request) := by
  have horigin : (allowOrigin, HeaderIndex.allowOrigin) ∈ HeaderIndex.slots := by
    simp [HeaderIndex.slots]
  have hcredentials : (allowCredentials, HeaderIndex.allowCredentials) ∈ HeaderIndex.slots := by
    simp [HeaderIndex.slots]
  have hpermitted : r'.permittedOrigin (.scan d) request = r.permittedOrigin (.scan d) request := by
    unfold Response.permittedOrigin
    cases hk : (HeaderIndex.scan d).allowCredentials with
    | none => rfl
    | some key => simp only [Option.bind_some, h.get? (Pass.length_ne_of_scan hcredentials hk)]
  unfold Response.allowReading
  rw [hpermitted]
  exact h.set (Pass.length_ne_getD horigin d) _

theorem dropPolicy (h : Alike r r') (index : HeaderIndex) :
    Alike (r.dropPolicy index) (r'.dropPolicy index) := by
  unfold Response.dropPolicy
  split
  · exact h
  · exact h.remove _

end Response.Alike

namespace Pass

/-- Relaxing does not look at the body or its length. -/
theorem relax_alike {r r' : Response} (h : r.Alike r') (d : Headers) (request : Request) :
    (relax request r (.scan d)).1.Alike (relax request r' (.scan d)).1 :=
  ((h.breakLoop d request.url).allowReading d request).dropPolicy _

theorem onto_alike (proxy : Proxy) (tool : Tool) (store : Store) (request : Request) (r : Response)
    (d : Headers) (kind : Option Kind) :
    (onto proxy store request r (.scan d) kind).2.2.Alike
      (onto { proxy with tool } store request r (.scan d) kind).2.2 := by
  cases hh : handed proxy.switches r.body kind with
  | none =>
    rw [(onto_of_not_handed store request _ hh).2.2 tool store]
    exact .refl _
  | some k =>
    have hh' : handed { proxy with tool }.switches r.body kind = some k := hh
    rw [(onto_of_handed store request _ hh).2.2, (onto_of_handed store request _ hh').2.2]
    exact (Response.Alike.withBody r _ _).setMediaType d k

/-- **The tool decides over the body only.** Two passes over one flow, on one store and with one
configuration and checker, end alike whatever their two tools do: with the same outcome, request and
error, and with responses of the same status and the same headers, of the length only the value
apart. And where a pass attempts to have its body instrumented and the attempt fails in any way, the
body is the decoded one. -/
theorem tool_decides_body_only (proxy : Proxy) (tool : Tool) (store : Store) (flow : Flow) :
    let r := run proxy store flow
    let r' := run { proxy with tool } store flow
    (r'.outcome = r.outcome ∧ r'.flow.request = r.flow.request ∧ r'.flow.error = r.flow.error ∧
      Option.Rel Response.Alike r.flow.response r'.flow.response) ∧
    ∀ answer fault, attempt? proxy store flow = some answer → answer.result = .error fault →
      ∃ decoded after, flow.decoded? = some decoded ∧ r.flow.response = some after ∧
        after.body = decoded.body := by
  refine ⟨?_, fun answer fault hattempt hfault => ?_⟩
  · cases hd : flow.decoded? with
    | none =>
      obtain ⟨trace, -, -, hrun⟩ := run_of_undecoded hd
      simp only [hrun, true_and]
      cases flow.response with
      | none => exact .none
      | some response => exact .some (.refl response)
    | some decoded =>
      obtain ⟨-, -, -, hrun⟩ := run_of_decoded hd proxy store
      obtain ⟨-, -, -, hrun'⟩ := run_of_decoded hd { proxy with tool } store
      obtain ⟨-, -, hresponse⟩ := complete_eq proxy store flow.request decoded
      obtain ⟨-, -, hresponse'⟩ := complete_eq { proxy with tool } store flow.request decoded
      rw [hrun, hrun']
      refine ⟨rfl, rfl, rfl, .some ?_⟩
      rw [hresponse, hresponse']
      exact relax_alike (onto_alike proxy tool store flow.request _ decoded.headers _) _ _
  · obtain ⟨decoded, after, hd, hafter, hbody⟩ :=
      (run_attempt proxy store flow).2.2 answer hattempt
    rw [hfault] at hbody
    exact ⟨decoded, after, hd, hafter, hbody⟩

/-- One tool leaves half an artifact and fails, the other succeeds. -/
theorem tool_decides_body_only_for_failing_tool :
    let failing := Tool.leaving fun job =>
      (.file (job.source.take 1), .error (.toolExit "instrument" (some 3) ""))
    let working := Tool.leaving fun job => (.file (47 :: job.source), .ok ())
    let proxy : Proxy := ⟨⟨"cache", false, "coverage"⟩, {}, failing, fun _ => ⟨false, []⟩⟩
    let store : Store := { tree := {}, now := ⟨0, 0, 0⟩, process := 7 }
    let response : Response := { status := 204, body := [97, 59] }
    let flow : Flow := { request := { url := "x://h/app" }, response := some response }
    (∃ answer fault, attempt? proxy store flow = some answer ∧ answer.result = .error fault) ∧
    (run { proxy with tool := working } store flow).outcome = (run proxy store flow).outcome ∧
    Option.Rel Response.Alike (run proxy store flow).flow.response
      (run { proxy with tool := working } store flow).flow.response ∧
    ∃ after, (run proxy store flow).flow.response = some after ∧ after.body = [97, 59] := by
  intro failing working proxy store response flow
  have hd : flow.decoded? = some response := by decide +kernel
  have hhanded : handed proxy.switches response.body
      (complete proxy store flow.request response).2.2.2 = some .script := by decide +kernel
  have hattempt : attempt? proxy store flow = some
      (Cache.instrument proxy.settings proxy.tool store flow.request response.body .script) := by
    simp only [attempt?, hd, Option.bind_some, hhanded, Option.map_some]
  obtain ⟨fault, hfails⟩ : ∃ fault, (Cache.instrument proxy.settings proxy.tool store flow.request
      response.body .script).result = .error fault :=
    Cache.exists_instrument_error (fun _ _ => ⟨_, rfl⟩) rfl
  obtain ⟨⟨houtcome, -, -, halike⟩, hbody⟩ := tool_decides_body_only proxy working store flow
  obtain ⟨decoded, after, hdecoded, hafter, hsame⟩ := hbody _ fault hattempt hfails
  have hbytes : after.body = [97, 59] := by
    rw [hsame, Option.some.inj (hdecoded.symm.trans hd)]
  exact ⟨⟨_, fault, hattempt, hfails⟩, houtcome, halike, after, hafter, hbytes⟩

end Pass

end Interpose
