import Interpose.Proofs.Cache.Call
import Interpose.Proofs.Files.Agreement

/-!
# What a call looks at

A call looks at the places near its paths (`Call.Looks`) and at nothing else. With a tool that
changes and looks at its output path only, two file trees that agree there are answered alike: with
the same result and the same log, and trees that agree again (`instrument_alike`).
-/

namespace Interpose

open FileTree

/-- A tool that looks at its output path only. -/
def Tool.Local (tool : Tool) : Prop :=
  ∀ job t u, AgreeOn (Near t job.output) t u →
    (tool job u).log = (tool job t).log ∧ (tool job u).result = (tool job t).result ∧
      (tool job u).tree.node? (t.placeOf job.output) =
        (tool job t).tree.node? (t.placeOf job.output)

theorem Leaving.apply_agree (left : Leaving) {places : Place → Prop} {t u : FileTree}
    {path : String} (h : AgreeOn places t u) (hp : ∀ p, Near t path p → places p) :
    AgreeOn places (left.apply path t) (left.apply path u) := by
  have alike : ∀ {x y : Except Obstacle FileTree}, Alike places x y →
      AgreeOn places (x.toOption.getD t) (y.toOption.getD u) := by
    intro x y hxy
    cases hxy with
    | ok h' => exact h'
    | error e => exact h
  cases left with
  | nothing => exact h
  | file content => exact alike (h.write hp content)
  | directory => exact alike (h.makeDirectory hp)

/-- A tool that decides by the job alone what it leaves at its output path looks at nothing else. -/
theorem Tool.leaving_local (behave : Job → Leaving × Except Fault Unit) :
    (Tool.leaving behave).Local := by
  intro job t u h
  refine ⟨rfl, rfl, ?_⟩
  exact ((behave job).1.apply_agree h fun _ => id).node (Or.inl (onWay_placeOf t _))

/-- A tool that changes and looks at its output path only takes trees that agree to trees that
agree. -/
theorem Tool.Local.agree {tool : Tool} (hlocal : tool.Local) (hconfined : tool.Confined)
    {places : Place → Prop} {t u : FileTree} (h : AgreeOn places t u) (job : Job)
    (hp : ∀ p, Near t job.output p → places p) :
    (tool job u).log = (tool job t).log ∧ (tool job u).result = (tool job t).result ∧
      AgreeOn places (tool job t).tree (tool job u).tree := by
  obtain ⟨hlog, hresult, hnode⟩ := hlocal job t u (h.mono hp)
  have ht := hconfined job t
  have hu := hconfined job u
  rw [h.placeOf] at hu
  refine ⟨hlog, hresult, ?_, fun {p} hpp => ?_⟩
  · rw [hu.workingDirectory, ht.workingDirectory, h.workingDirectory]
  · by_cases he : p = t.placeOf job.output
    · rw [he, hnode]
    · rw [hu.elsewhere he, ht.elsewhere he, h.node hpp]

namespace Cache

open Interpose.Path

/-- The places that a call looks at. -/
def Call.Looks (call : Call) (t : FileTree) (p : Place) : Prop :=
  onWay t call.directory p ∨
    ∃ path ∈ [call.artifact, call.sourcePath, metadataPath call.artifact, call.staging],
      Near t path p

theorem Call.looks_congr (call : Call) {t u : FileTree}
    (h : u.workingDirectory = t.workingDirectory) : call.Looks u = call.Looks t := by
  unfold Call.Looks Near onWay placeOf start
  rw [h]

/-- Two answers that agree in all but places out of sight. -/
structure Answer.AlikeOn (places : Place → Prop) (a b : Answer Instrumented) : Prop where
  result : b.result = a.result
  trace : b.trace = a.trace
  tree : AgreeOn places a.store.tree b.store.tree
  store : b.store = { a.store with tree := b.store.tree }

theorem Answer.AlikeOn.after {places : Place → Prop} {a b : Answer Instrumented}
    (h : Answer.AlikeOn places a b) (earlier : Trace) :
    Answer.AlikeOn places (a.after earlier) (b.after earlier) :=
  ⟨h.result, congrArg (earlier ++ ·) h.trace, h.tree, h.store⟩

variable {places : Place → Prop} {t u : FileTree}

theorem publish_workingDirectory (job : Job) (artifact : String) (run : ToolRun) :
    (publish job artifact run).1.workingDirectory = run.tree.workingDirectory :=
  (publish_changed (ChangedAt.refl (fun _ => True) run.tree) trivial trivial).workingDirectory

theorem publish_agree {job : Job} {artifact : String} {run run' : ToolRun}
    (hresult : run'.result = run.result) (h : AgreeOn places run.tree run'.tree)
    (hout : ∀ p, Near run.tree job.output p → places p)
    (hart : ∀ p, Near run.tree artifact p → places p) :
    (publish job artifact run').2 = (publish job artifact run).2 ∧
      AgreeOn places (publish job artifact run).1 (publish job artifact run').1 := by
  unfold publish
  simp only
  rw [hresult, h.read fun p hw => hout p (Or.inl hw)]
  cases run.result with
  | error fault => exact ⟨rfl, h⟩
  | ok _ =>
    cases run.tree.read job.output with
    | error e => cases e <;> exact ⟨rfl, h⟩
    | ok body =>
      have hr := h.rename hout hart
      dsimp only
      generalize run.tree.rename job.output artifact = x at hr ⊢
      generalize run'.tree.rename job.output artifact = y at hr ⊢
      cases hr with
      | ok h' => exact ⟨rfl, h'⟩
      | error e => exact ⟨rfl, h⟩

theorem recordMetadata_agree (h : AgreeOn places t u) {artifact : String}
    (hp : ∀ p, Near t (metadataPath artifact) p → places p) (m : Metadata) :
    (recordMetadata u artifact m).2 = (recordMetadata t artifact m).2 ∧
      AgreeOn places (recordMetadata t artifact m).1 (recordMetadata u artifact m).1 := by
  unfold recordMetadata
  have hw := h.write hp (Bytes.ofText m.toJson.pretty)
  dsimp only
  generalize t.write (metadataPath artifact) (Bytes.ofText m.toJson.pretty) = x at hw ⊢
  generalize u.write (metadataPath artifact) (Bytes.ofText m.toJson.pretty) = y at hw ⊢
  cases hw with
  | ok h' => exact ⟨rfl, h'⟩
  | error e => exact ⟨rfl, h⟩

theorem remove_agree (h : AgreeOn places t u) {path : String}
    (hp : ∀ p, Near t path p → places p) :
    AgreeOn places ((t.remove path).toOption.getD t) ((u.remove path).toOption.getD u) := by
  have hr := h.remove hp
  generalize t.remove path = x at hr ⊢
  generalize u.remove path = y at hr ⊢
  cases hr with
  | ok h' => exact h'
  | error e => exact h

variable {settings : Settings} {tool : Tool} {store : Store} {call : Call} {kind : Kind}
  {url : String}

theorem Call.near_looks (call : Call) (path : String)
    (h : path ∈ [call.artifact, call.sourcePath, metadataPath call.artifact, call.staging])
    (hp : ∀ p, call.Looks t p → places p) : ∀ p, Near t path p → places p :=
  fun p hn => hp p (Or.inr ⟨path, h, hn⟩)

theorem runTool_alike (hconfined : tool.Confined) (hlocal : tool.Local) (store : Store)
    (h : AgreeOn places store.tree u) (hp : ∀ p, call.Looks store.tree p → places p) :
    Answer.AlikeOn places (runTool settings tool store call kind url)
      (runTool settings tool { store with tree := u } call kind url) := by
  unfold runTool
  simp only
  generalize hj : Job.mk kind call.source call.staging settings.mode url = job
  have hout : job.output = call.staging := by rw [← hj]
  have hnear : ∀ p, Near store.tree job.output p → places p := by
    rw [hout]
    exact call.near_looks call.staging (by simp) hp
  obtain ⟨hlog, hresult, htree⟩ := hlocal.agree hconfined h job hnear
  have hlooks : ∀ {t' : FileTree}, t'.workingDirectory = store.tree.workingDirectory →
      ∀ p, call.Looks t' p → places p := by
    intro t' hw p hl
    rw [call.looks_congr hw] at hl
    exact hp p hl
  have hwork := (hconfined job store.tree).workingDirectory
  have hstaging : ∀ p, Near (tool job store.tree).tree job.output p → places p := by
    rw [hout]
    exact call.near_looks call.staging (by simp) (hlooks hwork)
  obtain ⟨hsame, hpub⟩ := publish_agree hresult htree hstaging
    (call.near_looks call.artifact (by simp) (hlooks hwork))
  have hchanged := (publish_workingDirectory job call.artifact (tool job store.tree)).trans hwork
  cases hx : publish job call.artifact (tool job store.tree) with
  | mk t' result =>
    cases hy : publish job call.artifact (tool job u) with
    | mk u' result' =>
      rw [hx] at hpub hsame hchanged
      rw [hy] at hpub hsame
      obtain rfl : result' = result := hsame
      cases result' with
      | error fault =>
        refine ⟨rfl, ?_, ?_, rfl⟩
        · dsimp only
          rw [hlog]
        · exact remove_agree hpub (call.near_looks call.staging (by simp) (hlooks hchanged))
      | ok body =>
        obtain ⟨hnote, hmeta⟩ := recordMetadata_agree hpub
          (call.near_looks (metadataPath call.artifact) (by simp) (hlooks hchanged))
          ⟨url, kind.extension, settings.mode, store.now⟩
        refine ⟨rfl, ?_, hmeta, rfl⟩
        dsimp only
        rw [hlog, hnote]

theorem answerMiss_alike (hconfined : tool.Confined) (hlocal : tool.Local)
    (hs : steps call.directory ≠ []) (h : AgreeOn places store.tree u)
    (hp : ∀ p, call.Looks store.tree p → places p) :
    Answer.AlikeOn places (answerMiss settings tool store call kind url)
      (answerMiss settings tool { store with tree := u } call kind url) := by
  unfold answerMiss
  simp only
  have hmake := h.makeDirectories fun p hw => hp p (Or.inl hw)
  cases hm : store.tree.makeDirectories call.directory with
  | error e =>
    rw [hm] at hmake
    generalize u.makeDirectories call.directory = y at hmake ⊢
    cases hmake
    exact ⟨rfl, rfl, h.grow fun p hw => hp p (Or.inl hw), rfl⟩
  | ok t' =>
    have hwork := (madeAlong_of_makeDirectories hs hm).1.changed.workingDirectory
    have hlooks : ∀ p, call.Looks t' p → places p := by
      intro p hl
      rw [call.looks_congr hwork] at hl
      exact hp p hl
    rw [hm] at hmake
    generalize u.makeDirectories call.directory = y at hmake ⊢
    cases hmake with
    | ok h' =>
      rename_i u'
      dsimp only
      have hwrite := h'.write (call.near_looks call.sourcePath (by simp) hlooks)
        call.source
      cases hw : t'.write call.sourcePath call.source with
      | error e =>
        rw [hw] at hwrite
        generalize u'.write call.sourcePath call.source = z at hwrite ⊢
        cases hwrite
        exact ⟨rfl, rfl, h', rfl⟩
      | ok t'' =>
        have hwork' := (ChangedAt.write hw).workingDirectory
        have hlooks' : ∀ p, call.Looks t'' p → places p := by
          intro p hl
          rw [call.looks_congr hwork'] at hl
          exact hlooks p hl
        rw [hw] at hwrite
        generalize u'.write call.sourcePath call.source = z at hwrite ⊢
        cases hwrite with
        | ok h'' =>
          exact (runTool_alike hconfined hlocal { store with tree := t'' } h'' hlooks').after _

/-- **A call looks at nothing but the places near its paths.** -/
theorem instrument_alike (hconfined : tool.Confined) (hlocal : tool.Local) (settings : Settings)
    (store : Store) (request : Request) (body : Bytes) (kind : Kind)
    (h : AgreeOn places store.tree u)
    (hp : ∀ p, (Call.of settings store request body kind).Looks store.tree p → places p) :
    Answer.AlikeOn places (instrument settings tool store request body kind)
      (instrument settings tool { store with tree := u } request body kind) := by
  have hs : steps (Call.of settings store request body kind).directory ≠ [] :=
    Key.steps_directory_ne_nil _ _ _
  have hcall : Call.of settings { store with tree := u } request body kind =
      Call.of settings store request body kind := by
    simp only [Call.of]
  unfold instrument
  rw [hcall]
  generalize Call.of settings store request body kind = call at hp hs ⊢
  have hway : ∀ p, onWay store.tree call.artifact p → places p := fun p hw =>
    call.near_looks call.artifact (by simp) hp p (Or.inl hw)
  refine Answer.AlikeOn.after ?_ _
  rw [h.isFile hway]
  split
  · unfold answerHit
    rw [h.read hway]
    cases store.tree.read call.artifact with
    | error e => exact ⟨rfl, rfl, h, rfl⟩
    | ok content => exact ⟨rfl, rfl, h, rfl⟩
  · exact answerMiss_alike hconfined hlocal hs h hp

end Cache

end Interpose
