import Interpose.Proofs.Pass.Steps

/-!
# How a pass ends

Whether a pass completes is told by the flow alone: it does if the flow carries no error and has a
response that can be decoded (`Flow.decoded?`). Any other pass stops before its work begins, and of
the flow only the error may change, to the fault of a failed decoding (`run_of_undecoded`). So what
goes wrong later, with the store or the tool, never makes a pass fail
(`stopped_pass_changes_nothing`).

Of the store and the tool, a pass that completes takes only the instrumented body (`run_congr`).
-/

namespace Interpose

open Cache (Store)

/-- The decoded response that a pass over a flow works on. -/
def Flow.decoded? (f : Flow) : Option Response :=
  match f.error, f.response with
  | none, some r => r.decode.toOption
  | _, _ => none

/-- Why the response of a flow cannot be decoded, if there is one that cannot. -/
def Flow.decodeFault? (f : Flow) : Option Fault :=
  match f.response with
  | none => none
  | some r =>
    match r.decode with
    | .error fault => some fault
    | .ok _ => none

/-- A flow has no decoded response if it carries an error, has no response or one that cannot be
decoded. -/
theorem Flow.decoded?_eq_none {f : Flow} :
    f.decoded? = none ↔ f.error.isSome ∨ f.response = none ∨ f.decodeFault?.isSome := by
  obtain ⟨request, response, error⟩ := f
  cases error with
  | some error => simp [Flow.decoded?]
  | none =>
    cases response with
    | none => simp [Flow.decoded?]
    | some response =>
      cases hd : response.decode <;> simp [Flow.decoded?, Flow.decodeFault?, hd, Except.toOption]

theorem Flow.decoded?_eq_some {f : Flow} {decoded : Response} :
    f.decoded? = some decoded ↔
      f.error = none ∧ ∃ r, f.response = some r ∧ r.decode = .ok decoded := by
  obtain ⟨request, response, error⟩ := f
  cases error with
  | some error => simp [Flow.decoded?]
  | none =>
    cases response with
    | none => simp [Flow.decoded?]
    | some response => cases hd : response.decode <;> simp [Flow.decoded?, hd, Except.toOption]

namespace Pass

variable {flow : Flow} {proxy proxy' : Proxy} {store store' : Store} {request : Request}
  {r : Response} {index : HeaderIndex}

/-! ## Passes that stop and passes that complete -/

/-- A pass without a decoded response stops, whatever the store, the tool and the checker are. -/
theorem run_of_undecoded (h : flow.decoded? = none) :
    ∃ trace : Trace, trace.jobs = [] ∧ trace.checked = [] ∧ ∀ proxy store,
      run proxy store flow =
        { store, trace
          flow := { flow with error := flow.error <|> flow.decodeFault?.map Fault.message }
          outcome := if flow.error.isSome then .skipped else .failed } := by
  obtain ⟨request, response, error⟩ := flow
  cases error with
  | some error => exact ⟨_, rfl, rfl, fun _ _ => rfl⟩
  | none =>
    cases response with
    | none => exact ⟨_, rfl, rfl, fun _ _ => rfl⟩
    | some response =>
      cases hd : response.decode with
      | ok decoded => simp [Flow.decoded?, hd, Except.toOption] at h
      | error fault =>
        refine ⟨failure request.url fault, rfl, rfl, fun _ _ => ?_⟩
        simp [run, Flow.decodeFault?, hd]

/-- A pass with a decoded response completes. -/
theorem run_of_decoded {decoded : Response} (h : flow.decoded? = some decoded) (proxy : Proxy)
    (store : Store) :
    flow.error = none ∧ flow.response.isSome ∧ flow.decodeFault? = none ∧
      run proxy store flow =
        let completed := complete proxy store flow.request decoded
        { store := completed.1, trace := completed.2.1, outcome := .completed completed.2.2.2
          flow := { flow with response := some completed.2.2.1 } } := by
  obtain ⟨request, response, error⟩ := flow
  cases error with
  | some error => simp [Flow.decoded?] at h
  | none =>
    cases response with
    | none => simp [Flow.decoded?] at h
    | some response =>
      cases hd : response.decode with
      | error fault => simp [Flow.decoded?, hd, Except.toOption] at h
      | ok decoded' =>
        simp only [Flow.decoded?, hd, Except.toOption, Option.some.injEq] at h
        subst h
        simp [run, Flow.decodeFault?, hd]

/-- A pass that completes has worked on a decoded response. -/
theorem run_of_completed {kind : Option Kind}
    (h : (run proxy store flow).outcome = .completed kind) :
    ∃ before decoded, flow.error = none ∧ flow.response = some before ∧
      before.decode = .ok decoded ∧ (complete proxy store flow.request decoded).2.2.2 = kind ∧
      (run proxy store flow).flow = { flow with
        response := some (complete proxy store flow.request decoded).2.2.1 } := by
  obtain ⟨request, response, error⟩ := flow
  cases error with
  | some error => simp [run] at h
  | none =>
    cases response with
    | none => simp [run] at h
    | some before =>
      cases hd : before.decode with
      | error fault => simp [run, hd] at h
      | ok decoded =>
        simp only [run, hd, Outcome.completed.injEq] at h
        exact ⟨before, decoded, rfl, rfl, hd, h, by simp [run, hd]⟩

/-- **A pass that stops changes nothing.** How a pass ends hangs on the flow alone: it is skipped if
the flow carries an error, fails if it has no response or one that cannot be decoded, and completes
otherwise. The error of a flow changes only to the fault of a failed decoding. A pass that is
skipped or fails leaves the request, the response and the store as they were, and hands nothing out.
-/
theorem stopped_pass_changes_nothing (proxy : Proxy) (store : Store) (flow : Flow) :
    let r := run proxy store flow
    (r.outcome = .skipped ↔ flow.error.isSome) ∧
    (r.outcome = .failed ↔
      flow.error = none ∧ (flow.response = none ∨ flow.decodeFault?.isSome)) ∧
    ((∃ kind, r.outcome = .completed kind) ↔
      flow.error = none ∧ flow.response.isSome ∧ flow.decodeFault? = none) ∧
    r.flow.error = (flow.error <|> flow.decodeFault?.map Fault.message) ∧
    (r.outcome = .skipped ∨ r.outcome = .failed →
      r.flow.request = flow.request ∧ r.flow.response = flow.response ∧ r.store = store ∧
        r.trace.jobs = [] ∧ r.trace.checked = []) := by
  cases hd : flow.decoded? with
  | some decoded =>
    obtain ⟨herror, hresponse, hfault, hrun⟩ := run_of_decoded hd proxy store
    have hsome : flow.response ≠ none := Option.isSome_iff_ne_none.mp hresponse
    simp [hrun, herror, hresponse, hfault, hsome]
  | none =>
    obtain ⟨trace, hjobs, hchecked, hrun⟩ := run_of_undecoded hd
    rw [Flow.decoded?_eq_none] at hd
    cases herror : flow.error with
    | some error => simp [hrun, herror, hjobs, hchecked]
    | none =>
      have hstops : flow.response = none ∨ flow.decodeFault?.isSome := by simpa [herror] using hd
      have hopen : ¬(flow.response.isSome ∧ flow.decodeFault? = none) := by
        rcases hstops with h | h
        · simp [h]
        · simp [Option.isSome_iff_ne_none.mp h]
      simp only [hrun, herror, Option.isSome_none, Bool.false_eq_true, if_false, reduceCtorEq,
        true_and, exists_false, hstops, hopen, hjobs, hchecked, and_self, implies_true]

/-- In a stack of two encodings, the last one is undone before the first one turns out unknown. -/
theorem stopped_pass_changes_nothing_for_unknown_encoding :
    let proxy : Proxy := ⟨⟨"cache", true, "coverage"⟩, {},
      Tool.leaving fun _ => (.nothing, .ok ()), fun _ => ⟨false, []⟩⟩
    let store : Store := { tree := {}, now := ⟨0, 0, 0⟩, process := 7 }
    let headers : Headers := ⟨[("Content-Encoding", "br, Deflate"), ("Location", "x://h/")]⟩
    let response : Response := { status := 200, headers, body := [1, 1, 0, 0xFE, 0xFF, 97] }
    let flow : Flow := { request := { url := "x://h/app.js" }, response := some response }
    let r := run proxy store flow
    r.outcome = .failed ∧ r.flow.request = flow.request ∧ r.flow.response = flow.response ∧
      r.store = store ∧ r.trace.jobs = [] ∧ r.trace.checked = [] ∧
      r.flow.error = some (Fault.decode "br" "unsupported content encoding").message := by
  intro proxy store headers response flow r
  have hvalue : headers.get? Headers.contentEncoding = some "br, Deflate" := by
    simp [headers, Headers.get?, Headers.named, Headers.contentEncoding, sameText_self]
  have hlist : (Response.encodings "br, Deflate").reverse = ["deflate", "br"] := by decide +kernel
  have hundo : Response.undoAll ["deflate", "br"] response.body =
      .error (.decode "br" "unsupported content encoding") := rfl
  have hfault : flow.decodeFault? = some (.decode "br" "unsupported content encoding") := by
    simp only [flow, Flow.decodeFault?, Response.decode, response, hvalue, hlist, hundo]
  obtain ⟨-, hfailed, -, herror, hkept⟩ := stopped_pass_changes_nothing proxy store flow
  have hstops : r.outcome = .failed := hfailed.mpr ⟨rfl, Or.inr (by rw [hfault]; rfl)⟩
  obtain ⟨hrequest, hresponse, hstore, hjobs, hchecked⟩ := hkept (Or.inr hstops)
  refine ⟨hstops, hrequest, hresponse, hstore, hjobs, hchecked, ?_⟩
  rw [herror, hfault]
  rfl

/-! ## What a pass takes from the store -/

theorem instrumented_store (proxy : Proxy) (store : Store) (request : Request) (body : Bytes)
    (kind : Kind) : (instrumented proxy store request body kind).1 =
      (Cache.instrument proxy.settings proxy.tool store request body kind).store := by
  unfold instrumented
  simp only
  split <;> rfl

theorem instrumented_body (proxy : Proxy) (store : Store) (request : Request) (body : Bytes)
    (kind : Kind) : (instrumented proxy store request body kind).2.2 =
      ((Cache.instrument proxy.settings proxy.tool store request body kind).result.toOption.map
        (·.body)).getD body := by
  unfold instrumented
  simp only
  split
  · rename_i i hr
    rw [hr]
    rfl
  · rename_i fault hr
    rw [hr]
    rfl

/-- The response that a pass makes depends on the store and the tool through the instrumented body
only. -/
theorem onto_congr (hs : proxy.switches = proxy'.switches)
    (h : ∀ kind, (instrumented proxy store request r.body kind).2.2 =
      (instrumented proxy' store' request r.body kind).2.2) (kind : Option Kind) :
    (onto proxy store request r index kind).2.2 =
      (onto proxy' store' request r index kind).2.2 := by
  match kind with
  | none => rfl
  | some .html =>
    simp only [onto, ontoHtml, ← hs]
    split
    · split
      · rfl
      · simp only [h]
    · rfl
  | some .script =>
    simp only [onto, ontoScript, ← hs]
    split
    · rfl
    · split
      · simp only [h]
      · rfl

/-- The store that a pass leaves is the one that it found, or that instrumenting left. -/
theorem onto_store {P : Store → Prop} (hstore : P store)
    (h : ∀ kind, P (instrumented proxy store request r.body kind).1) (kind : Option Kind) :
    P (onto proxy store request r index kind).1 := by
  match kind with
  | none => exact hstore
  | some .html =>
    simp only [onto, ontoHtml]
    split
    · split
      · exact hstore
      · exact h .html
    · exact hstore
  | some .script =>
    simp only [onto, ontoScript]
    split
    · exact hstore
    · split
      · exact h .script
      · exact hstore

theorem complete_congr (hs : proxy.switches = proxy'.switches) (hc : proxy.checker = proxy'.checker)
    (h : ∀ kind, (instrumented proxy store request r.body kind).2.2 =
      (instrumented proxy' store' request r.body kind).2.2) :
    (complete proxy store request r).2.2 = (complete proxy' store' request r).2.2 := by
  have hbody : ∀ index, ((withContent r).mergeQuery index request.customQuery).body = r.body :=
    fun index => by rw [body_mergeQuery, body_withContent]
  unfold complete
  simp only [← hc]
  rw [onto_congr hs (fun kind => by rw [hbody]; exact h kind)]

theorem complete_store {P : Store → Prop} (hstore : P store)
    (h : ∀ kind, P (instrumented proxy store request r.body kind).1) :
    P (complete proxy store request r).1 := by
  unfold complete
  refine onto_store hstore (fun kind => ?_) _
  rw [body_mergeQuery, body_withContent]
  exact h kind

theorem run_congr (proxy proxy' : Proxy) (store store' : Store)
    (hs : proxy.switches = proxy'.switches) (hc : proxy.checker = proxy'.checker)
    (h : ∀ r, flow.decoded? = some r → ∀ kind,
      (instrumented proxy store flow.request r.body kind).2.2 =
        (instrumented proxy' store' flow.request r.body kind).2.2) :
    (run proxy store flow).outcome = (run proxy' store' flow).outcome ∧
      (run proxy store flow).flow = (run proxy' store' flow).flow := by
  cases hd : flow.decoded? with
  | none =>
    obtain ⟨trace, -, -, hrun⟩ := run_of_undecoded hd
    simp only [hrun, and_self]
  | some decoded =>
    have hcomplete := complete_congr hs hc (h decoded hd)
    simp only [(run_of_decoded hd _ _).2.2.2, hcomplete, and_self]

theorem run_store {P : Store → Prop} (hstore : P store)
    (h : ∀ r, flow.decoded? = some r → ∀ kind,
      P (instrumented proxy store flow.request r.body kind).1) :
    P (run proxy store flow).store := by
  cases hd : flow.decoded? with
  | none =>
    obtain ⟨trace, -, -, hrun⟩ := run_of_undecoded hd
    simpa only [hrun] using hstore
  | some decoded =>
    simpa only [(run_of_decoded hd _ _).2.2.2] using complete_store hstore (h decoded hd)

end Pass

end Interpose
