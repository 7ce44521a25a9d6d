import Interpose.Proofs.Cache.Ending
import Interpose.Proofs.CommandLine.Rewrite
import Interpose.Proofs.Http.Preprocess
import Interpose.Proofs.Pass.Work

/-!
# The client's URL over several replays

The request hook notes the URL that it finds as the client's, also where one is noted already. So a
run of the hook hands on the URL that the runs before it have left: to the flow, to its record, to
the tool and to the metadata of what is published (`Request.HandsOn`). The first run takes the first
`sync` piece away, and with it what the client asked for. The client's URL is kept over all runs only
where no run changes it, and none before did (`Request.client_url_kept_iff`).
-/

namespace Interpose

open Cache (Store Call Settings artifactName instrument)

/-! ## Replays -/

namespace Flow

variable {f : Flow}

/-- A flow that is replayed again and again, each time from what the replay before has recorded. -/
def replayed? (f : Flow) : List (Proxy × Store) → Option Flow
  | [] => some f
  | (proxy, store) :: runs =>
    (read? (Bytes.ofText (f.replay proxy store).flow.compact)).bind (·.replayed? runs)

/-- A replay does to the request what the request hook does. -/
theorem request_replay (f : Flow) (proxy : Proxy) (store : Store) :
    (f.replay proxy store).flow.request = f.request.preprocess := by
  unfold replay
  cases hd : f.preprocess.decoded? with
  | none =>
    obtain ⟨trace, -, -, hrun⟩ := Pass.run_of_undecoded hd
    rw [hrun]
    rfl
  | some decoded =>
    obtain ⟨-, -, -, hrun⟩ := Pass.run_of_decoded hd proxy store
    rw [hrun]
    rfl

/-- Replays always leave a record that is read, and run the request hook once each. -/
theorem exists_replayed (h : f.Recordable) (runs : List (Proxy × Store)) :
    ∃ g, f.replayed? runs = some g ∧ g.Recordable ∧
      g.request = Request.preprocess^[runs.length] f.request := by
  induction runs generalizing f with
  | nil => exact ⟨f, rfl, h, rfl⟩
  | cons run runs ih =>
    obtain ⟨proxy, store⟩ := run
    have hreplay := recordable_replay h proxy store
    obtain ⟨g, hg, hrecordable, hrequest⟩ := ih hreplay
    refine ⟨g, ?_, hrecordable, ?_⟩
    · rw [replayed?, read?_compact hreplay, Option.bind_some, hg]
    · rw [hrequest, request_replay, List.length_cons, Function.iterate_succ_apply]

theorem jobs_preprocessNote (f : Flow) : f.preprocessNote.jobs = [] := by
  unfold preprocessNote
  split <;> rfl

/-- The tool is told the URL with which a flow comes to a replay. -/
theorem url_of_job {proxy : Proxy} {store : Store} {job : Job}
    (h : job ∈ (f.replay proxy store).trace.jobs) : job.url = f.request.url := by
  simp only [replay, Trace.jobs_append, jobs_preprocessNote, List.nil_append] at h
  cases hd : f.preprocess.decoded? with
  | none =>
    obtain ⟨trace, hjobs, -, hrun⟩ := Pass.run_of_undecoded hd
    rw [hrun, hjobs] at h
    cases h
  | some decoded =>
    obtain ⟨kind, -, hsame⟩ := Pass.exists_handed_of_job hd h
    rw [hsame] at h
    obtain ⟨-, rfl, -⟩ := Cache.jobs_instrument h
    exact f.request.clientUrl_preprocess

end Flow

/-! ## What is handed on -/

/-- Whatever a call for a request publishes, it publishes with metadata that names a URL. -/
def Cache.Records (request : Request) (url : String) : Prop :=
  ∀ (settings : Settings) (tool : Tool) (store : Store) (body : Bytes) (kind : Kind), tool.Leaves →
    (Call.of settings store request body kind).Ends (artifactName request.pathComponents) kind
      store.process store.staged ⟨url, kind.extension, settings.mode, store.now⟩ store.tree
      (instrument settings tool store request body kind).store.tree
      (instrument settings tool store request body kind).result

theorem Cache.records_clientUrl (request : Request) : Records request request.clientUrl :=
  fun settings _ store body kind htool => instrument_ends htool settings store request body kind

namespace Request

/-- What runs of the request hook hand on as the client's URL, counted from 0. -/
structure HandsOn (r : Request) (url : Nat → String) : Prop where
  hook : ∀ n, (preprocess^[n + 1] r).clientUrl = url n
  /-- A flow may be recorded after each run, and read back. -/
  recorded : ∀ f : Flow, f.request = r → f.Recordable → ∀ run runs,
    ∃ g, f.replayed? (run :: runs) = some g ∧ g.request.clientUrl = url runs.length
  /-- One more replay of the flow tells the tool this URL and no other. -/
  job : ∀ f : Flow, f.request = r → f.Recordable → ∀ runs,
    ∃ g, f.replayed? runs = some g ∧ ∀ proxy store, ∀ job ∈ (g.replay proxy store).trace.jobs,
      job.url = url runs.length
  metadata : ∀ n, Cache.Records (preprocess^[n + 1] r) (url n)

/-- Each run hands on what the runs before it have left of the URL. -/
theorem handsOn_left (r : Request) : r.HandsOn fun n => Sync.left^[n] r.url where
  hook := fun n => r.clientUrl_iterate_preprocess n
  recorded := by
    rintro f rfl h run runs
    obtain ⟨g, hg, -, hrequest⟩ := Flow.exists_replayed h (run :: runs)
    refine ⟨g, hg, ?_⟩
    rw [hrequest, List.length_cons, clientUrl_iterate_preprocess]
  job := by
    rintro f rfl h runs
    obtain ⟨g, hg, -, hrequest⟩ := Flow.exists_replayed h runs
    refine ⟨g, hg, fun proxy store job hjob => ?_⟩
    rw [Flow.url_of_job hjob, hrequest, url_iterate_preprocess]
  metadata := fun n => by
    rw [← clientUrl_iterate_preprocess]
    exact Cache.records_clientUrl _

/-- **The client's URL is kept by the runs of the request hook** if it is the URL that the first run
finds, and there is no `sync` piece in it, and only then. Else each run hands on what the runs before
it have left of the URL. -/
theorem client_url_kept_iff (r : Request) :
    (r.HandsOn fun n => Sync.left^[n] r.url) ∧
      ((r.HandsOn fun _ => r.clientUrl) ↔ r.clientUrl = r.url ∧ Sync.strip? r.url = none) := by
  refine ⟨r.handsOn_left, fun h => ?_, fun ⟨hasked, hnone⟩ => ?_⟩
  · -- the first run hands on the URL it finds, and the second what the first has left
    have hfirst : r.url = r.clientUrl := (r.clientUrl_iterate_preprocess 0).symm.trans (h.hook 0)
    have hsecond : Sync.left^[1] r.url = r.clientUrl :=
      (r.clientUrl_iterate_preprocess 1).symm.trans (h.hook 1)
    rw [← hfirst] at hsecond
    refine ⟨hfirst.symm, ?_⟩
    exact ((Sync.iterate_left_eq_self_iff 1 r.url).mp hsecond).resolve_left (by decide)
  · have hkept : (fun n => Sync.left^[n] r.url) = fun _ => r.clientUrl := funext fun n => by
      rw [(Sync.iterate_left_eq_self_iff n r.url).mpr (Or.inr hnone), hasked]
    rw [← hkept]
    exact r.handsOn_left

/-- The URL of a flow that was rewritten before is lost in the first run. -/
theorem not_handsOn_of_rewritten :
    let r : Request :=
      { url := "https://x/app.js", askedUrl := some "https://x/app.js?sync=9", sync := some "9" }
    r.clientUrl = "https://x/app.js?sync=9" ∧ r.preprocess.clientUrl = "https://x/app.js" ∧
      ¬ r.HandsOn fun _ => r.clientUrl := by
  refine ⟨rfl, by decide, fun h => ?_⟩
  have hfirst := h.hook 0
  revert hfirst
  decide

end Request

end Interpose
