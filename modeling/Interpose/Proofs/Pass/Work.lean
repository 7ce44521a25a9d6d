import Interpose.Proofs.Pass.Tool

/-!
# What a pass hands out

The checker is asked in the classification only, and the tool is given a job only by a call of the
store that finds no artifact (`jobs_instrument`). A pass classifies once and makes one attempt at
most, so it hands out at most one source and one job. Which these are, and under what conditions,
is told by the flow, the configuration and the artifact that is there or not
(`pass_works_sparingly`).
-/

namespace Interpose

open Cache (Store Call)

/-! ## Calls of the store -/

namespace Cache

variable {settings : Settings} {tool : Tool} {store : Store} {call : Call} {kind : Kind}
  {url : String}

/-- The job that a call gives the tool. -/
def Call.job (call : Call) (settings : Settings) (kind : Kind) (url : String) : Job :=
  { kind, source := call.source, output := call.staging, mode := settings.mode, url }

theorem trace_recordMetadata (t : FileTree) (artifact : String) (m : Metadata) :
    (recordMetadata t artifact m).2.jobs = [] ∧ (recordMetadata t artifact m).2.checked = [] := by
  unfold recordMetadata
  dsimp only
  split <;> exact ⟨rfl, rfl⟩

/-- A run of the tool is one job. -/
theorem trace_runTool (settings : Settings) (tool : Tool) (store : Store) (call : Call)
    (kind : Kind) (url : String) :
    (runTool settings tool store call kind url).trace.jobs = [call.job settings kind url] ∧
      (runTool settings tool store call kind url).trace.checked = [] := by
  unfold runTool
  dsimp only
  split
  · exact ⟨rfl, rfl⟩
  · simp [trace_recordMetadata, Call.job]

/-- A miss runs the tool once, or not at all if its directory or source cannot be made. -/
theorem trace_answerMiss (settings : Settings) (tool : Tool) (store : Store) (call : Call)
    (kind : Kind) (url : String) :
    ((answerMiss settings tool store call kind url).trace.jobs = [] ∨
      (answerMiss settings tool store call kind url).trace.jobs = [call.job settings kind url]) ∧
      (answerMiss settings tool store call kind url).trace.checked = [] := by
  unfold answerMiss
  dsimp only
  split
  · exact ⟨Or.inl rfl, rfl⟩
  · split
    · exact ⟨Or.inl rfl, rfl⟩
    · simp [Answer.after, trace_runTool, Trace.debug]

theorem trace_answerHit (store : Store) (artifact url : String) :
    (answerHit store artifact url).trace.jobs = [] ∧
      (answerHit store artifact url).trace.checked = [] := by
  unfold answerHit
  dsimp only
  split <;> exact ⟨rfl, rfl⟩

/-- A call gives the tool at most one job, and none if it may answer from an artifact that is
there. -/
theorem jobs_instrument {settings : Settings} {tool : Tool} {store : Store} {request : Request}
    {body : Bytes} {kind : Kind} {job : Job}
    (h : job ∈ (instrument settings tool store request body kind).trace.jobs) :
    (instrument settings tool store request body kind).trace.jobs = [job] ∧
      job = (Call.of settings store request body kind).job settings kind request.clientUrl ∧
      (settings.useCache → ¬ store.tree.isFile (Call.of settings store request body kind).artifact)
        := by
  unfold instrument at h ⊢
  simp only [Answer.after, Trace.jobs_append, Trace.jobs_normalizing, List.nil_append] at h ⊢
  generalize Call.of settings store request body kind = call at h ⊢
  split at h
  · rw [(trace_answerHit store call.artifact request.clientUrl).1] at h
    cases h
  · rename_i hmiss
    rw [if_neg hmiss]
    rcases (trace_answerMiss settings tool store call kind request.clientUrl).1 with hnone | hone
    · rw [hnone] at h
      cases h
    · rw [hone, List.mem_singleton] at h
      rw [hone, h]
      exact ⟨rfl, rfl, by simpa using hmiss⟩

theorem checked_instrument (settings : Settings) (tool : Tool) (store : Store) (request : Request)
    (body : Bytes) (kind : Kind) :
    (instrument settings tool store request body kind).trace.checked = [] := by
  unfold instrument
  simp only [Answer.after, Trace.checked_append, Trace.checked_normalizing, List.nil_append]
  split
  · exact (trace_answerHit store _ _).2
  · exact (trace_answerMiss settings tool store _ kind _).2

end Cache

/-- Whether a kind is switched on. -/
def Switches.isOn (switches : Switches) : Kind → Bool
  | .html => switches.html
  | .script => switches.script

namespace Pass

variable {proxy : Proxy} {store : Store} {request : Request} {decoded : Response} {flow : Flow}

/-! ## The steps of a pass -/

theorem checked_instrumented (proxy : Proxy) (store : Store) (request : Request) (body : Bytes)
    (kind : Kind) : (instrumented proxy store request body kind).2.1.checked = [] := by
  have hcall := Cache.checked_instrument proxy.settings proxy.tool store request body kind
  unfold instrumented
  dsimp only
  split <;> simp [hcall, Trace.warn]

theorem checked_onto (proxy : Proxy) (store : Store) (request : Request) (r : Response)
    (index : HeaderIndex) (kind : Option Kind) :
    (onto proxy store request r index kind).2.1.checked = [] := by
  unfold onto ontoHtml ontoScript
  dsimp only
  repeat' split
  all_goals simp [checked_instrumented, Trace.checked_normalizing, Trace.warn]

theorem checked_relax (request : Request) (r : Response) (index : HeaderIndex) :
    (relax request r index).2.checked = [] := by
  unfold relax
  dsimp only
  split <;> rfl

/-- The checker is asked in the classification only. -/
theorem checked_complete (proxy : Proxy) (store : Store) (request : Request)
    (decoded : Response) : (complete proxy store request decoded).2.1.checked =
      (Classification.classify proxy.checker request.url decoded.body
        (mediaType request decoded)).2.checked := by
  simp only [complete_steps, Trace.checked_append, checked_onto, checked_relax, Trace.debug,
    Trace.checked_note, List.append_nil]

/-- A pass that finds no kind does not look at the store. -/
theorem complete_of_unknown (proxy : Proxy) (store store' : Store) (request : Request)
    (decoded : Response) (h : (complete proxy store request decoded).2.2.2 = none) :
    (complete proxy store request decoded).1 = store ∧
      (complete proxy store' request decoded).1 = store' ∧
      (complete proxy store' request decoded).2 = (complete proxy store request decoded).2 := by
  simp only [complete_steps] at h ⊢
  rw [h]
  exact ⟨rfl, rfl, rfl⟩

/-! ## Passes -/

/-- A body is handed on as what the pass takes it for, if that is switched on and a script does not
look like an HTML page. -/
theorem of_handed {switches : Switches} {body : Bytes} {kind : Option Kind} {k : Kind}
    (h : handed switches body kind = some k) : kind = some k ∧ switches.isOn k ∧
      (k = .script → ¬ Sniff.looksLikeHtml (Classification.lookedAt body)) := by
  cases kind with
  | none => cases h
  | some taken =>
    cases taken with
    | html =>
      simp only [handed, Option.ite_none_right_eq_some, Bool.and_eq_true, Option.some.injEq] at h
      obtain ⟨⟨hswitch, -⟩, rfl⟩ := h
      exact ⟨rfl, hswitch, by simp⟩
    | script =>
      simp only [handed, Option.ite_none_right_eq_some, Bool.and_eq_true, Bool.not_eq_true',
        Option.some.injEq] at h
      obtain ⟨⟨hswitch, hlooks⟩, rfl⟩ := h
      exact ⟨rfl, hswitch, fun _ => by simp [hlooks]⟩

/-- What the checker is asked by a pass is what the classification asks it. -/
theorem run_checked (hd : flow.decoded? = some decoded) (proxy : Proxy) (store : Store) :
    (run proxy store flow).trace.checked =
      (Classification.classify proxy.checker flow.request.url decoded.body
        (mediaType flow.request decoded)).2.checked := by
  obtain ⟨-, -, -, hrun⟩ := run_of_decoded hd proxy store
  rw [hrun]
  exact checked_complete proxy store flow.request decoded

/-- The jobs of a pass are those of one call of the store, for the body that is handed on. -/
theorem exists_handed_of_job (hd : flow.decoded? = some decoded) {job : Job}
    (hmem : job ∈ (run proxy store flow).trace.jobs) : ∃ k,
      handed proxy.switches decoded.body (complete proxy store flow.request decoded).2.2.2 =
        some k ∧
      (run proxy store flow).trace.jobs = (Cache.instrument proxy.settings proxy.tool store
        flow.request decoded.body k).trace.jobs := by
  rw [(run_attempt proxy store flow).2.1, attempt?, hd, Option.bind_some] at hmem ⊢
  cases hh : handed proxy.switches decoded.body
      (complete proxy store flow.request decoded).2.2.2 with
  | none => simp [hh] at hmem
  | some k => exact ⟨k, rfl, by simp only [hh, Option.map_some, Option.getD_some]⟩

/-- What a pass over a flow hands out. -/
structure Sparing (proxy : Proxy) (store : Store) (flow : Flow) (r : Result) : Prop where
  jobs : r.trace.jobs.length ≤ 1
  checks : r.trace.checked.length ≤ 1
  /-- The checker is asked about the trimmed text of the decoded body, if it is neither empty nor
  JSON. -/
  check : ∀ s ∈ r.trace.checked, ∃ decoded, flow.decoded? = some decoded ∧
    s = Bytes.trim (normalize decoded.body) ∧ s ≠ [] ∧ ¬ Sniff.looksLikeJson s
  /-- The tool is given the text of the decoded body, as the kind that the pass ends with. -/
  job : ∀ job ∈ r.trace.jobs, ∃ decoded, flow.decoded? = some decoded ∧
    r.outcome = .completed (some job.kind) ∧ proxy.switches.isOn job.kind ∧
    job.source = normalize decoded.body ∧ job.mode = proxy.settings.mode ∧
    job.url = flow.request.askedUrl.getD flow.request.url ∧
    (job.kind = .script → ¬ Sniff.looksLikeHtml (Bytes.trim job.source)) ∧
    (proxy.settings.useCache → ¬ store.tree.isFile
      (Call.of proxy.settings store flow.request decoded.body job.kind).artifact)
  /-- A pass that ends without a kind changes no file, and does not look at any. -/
  unknown : r.outcome = .completed none →
    r.store = store ∧ ∀ store', run proxy store' flow = { r with store := store' }

/-- **A pass hands out little.** It gives the tool at most one job and the checker at most one
source: the checker the trimmed text of the decoded body, and the tool that text itself, for the
kind that the pass ends with. With caching on there is no job where the artifact is there. -/
theorem pass_works_sparingly (proxy : Proxy) (store : Store) (flow : Flow) :
    Sparing proxy store flow (run proxy store flow) := by
  cases hd : flow.decoded? with
  | none =>
    obtain ⟨trace, hjobs, hchecked, hrun⟩ := run_of_undecoded hd
    rw [hrun]
    refine ⟨by simp [hjobs], by simp [hchecked], by simp [hchecked], by simp [hjobs], ?_⟩
    intro houtcome
    split at houtcome <;> cases houtcome
  | some decoded =>
    obtain ⟨-, -, -, hrun⟩ := run_of_decoded hd proxy store
    have hasked := Classification.asked_classify proxy.checker flow.request.url decoded.body
      (mediaType flow.request decoded)
    rw [← run_checked hd proxy store] at hasked
    have hkind : (run proxy store flow).outcome =
        .completed (complete proxy store flow.request decoded).2.2.2 := by
      rw [hrun]
    refine ⟨?_, ?_, ?_, ?_, ?_⟩
    · cases hjobs : (run proxy store flow).trace.jobs with
      | nil => simp
      | cons job rest =>
        have hmem : job ∈ (run proxy store flow).trace.jobs := by simp [hjobs]
        obtain ⟨k, -, hsame⟩ := exists_handed_of_job hd hmem
        rw [hsame] at hmem
        rw [← hjobs, hsame, (Cache.jobs_instrument hmem).1]
        simp
    · rcases hasked with hnone | ⟨hone, -⟩
      · simp [hnone]
      · simp [hone]
    · intro s hs
      rcases hasked with hnone | ⟨hone, hne, hjson⟩
      · simp [hnone] at hs
      · rw [hone, List.mem_singleton] at hs
        rw [hs]
        exact ⟨decoded, hd, rfl, hne, hjson⟩
    · intro job hmem
      obtain ⟨k, hh, hsame⟩ := exists_handed_of_job hd hmem
      rw [hsame] at hmem
      obtain ⟨hpass, hswitch, hlooks⟩ := of_handed hh
      obtain ⟨-, rfl, hmiss⟩ := Cache.jobs_instrument hmem
      refine ⟨decoded, hd, ?_, hswitch, rfl, rfl, rfl, hlooks, hmiss⟩
      rw [hkind, hpass]
      rfl
    · intro houtcome
      rw [hkind, Outcome.completed.injEq] at houtcome
      have hcomplete := fun store' => complete_of_unknown proxy store store' flow.request decoded
        houtcome
      refine ⟨by rw [hrun]; exact (hcomplete store).1, fun store' => ?_⟩
      obtain ⟨-, -, -, hrun'⟩ := run_of_decoded hd proxy store'
      rw [hrun', hrun]
      simp only [(hcomplete store').2.1, (hcomplete store').2.2]

end Pass

end Interpose
