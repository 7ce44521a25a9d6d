import Interpose.Proofs.Cache.Name
import Interpose.Proofs.Files.Directory
import Interpose.Proofs.Url.Host

/-!
# What a call does to the file tree

A call works on four files of one directory, one for each role (`Call.FilesOf`). With a tool that
touches its output path only (`Tool.Confined`), a call makes the directories on the way to its own
and changes those four files, and nothing else (`instrument_grown`).

A call that succeeds leaves its artifact in place, with the body it answered
(`read_of_instrument`), and while an artifact is in place every call for it is a hit that
changes nothing (`instrument_eq_hit`).
-/

namespace Interpose

open FileTree

/-- A tool that touches its output path only, and does not take a directory away there, since other
paths may lead through it. -/
def Tool.Confined (tool : Tool) : Prop :=
  ∀ job t, ChangedAt (· = t.placeOf job.output) t (tool job t).tree

theorem Leaving.apply_changed (left : Leaving) (path : String) (t : FileTree) :
    ChangedAt (· = t.placeOf path) t (left.apply path t) := by
  cases left with
  | nothing => exact ChangedAt.refl _ _
  | file content =>
    cases hw : t.write path content with
    | error e =>
      simp only [apply, hw]
      exact ChangedAt.refl _ _
    | ok t' =>
      simp only [apply, hw]
      exact ChangedAt.write hw
  | directory =>
    cases hw : t.makeDirectory path with
    | error e =>
      simp only [apply, hw]
      exact ChangedAt.refl _ _
    | ok t' =>
      simp only [apply, hw]
      exact ChangedAt.makeDirectory hw

theorem Tool.leaving_confined (behave : Job → Leaving × Except Fault Unit) :
    (Tool.leaving behave).Confined :=
  fun job t => (behave job).1.apply_changed job.output t

namespace Cache

open Interpose.Path

/-! ## Paths -/

theorem Key.host_ne_empty (host : Option String) (source : Bytes) :
    (Key.of host source).host ≠ "" := by
  unfold Key.of
  cases host with
  | none => simp [unknownHost]
  | some h =>
    by_cases he : h = ""
    · simp [he, unknownHost]
    · simp [he]

theorem Key.slash_not_mem_host (request : Request) (source : Bytes) :
    '/' ∉ (Key.of request.host source).host.toList := by
  have hu : '/' ∉ unknownHost.toList := by decide
  unfold Key.of Request.host
  cases hp : Url.parse? request.url with
  | none => exact hu
  | some u =>
    cases hh : u.host with
    | none => simpa [hh] using hu
    | some h =>
      have := Url.slash_not_mem_host hp hh
      by_cases he : h = ""
      · simpa [hh, he] using hu
      · simpa [hh, he] using this

/-- The steps of a key's directory are those of the root and those of the key. -/
theorem Key.steps_directory {key : Key} (hhost : '/' ∉ key.host.toList)
    (hhash : IsComponent key.hash) (root : String) :
    steps (key.directory root) = steps root ++ (steps key.host ++ [key.hash]) := by
  rw [Key.directory, steps_join_component hhash, steps_join hhost, List.append_assoc]

theorem Key.steps_directory_of (request : Request) (source : Bytes) (root : String) :
    steps ((Key.of request.host source).directory root) =
      steps root ++ (steps (Key.of request.host source).host ++ [contentHash source]) :=
  Key.steps_directory (slash_not_mem_host request source) (isComponent_contentHash source) root

theorem Key.steps_directory_ne_nil (request : Request) (source : Bytes) (root : String) :
    steps ((Key.of request.host source).directory root) ≠ [] := by
  simp [Key.steps_directory_of]

theorem Key.start_directory {key : Key} (hhost : '/' ∉ key.host.toList)
    (hhash : IsComponent key.hash) (t : FileTree) (root : String) :
    t.start (key.directory root) = t.start root := by
  rw [Key.directory, start_join t hhash.no_slash, start_join t hhost]

/-- The step of a host, which is none for a single point. -/
theorem steps_host {host : String} (hs : '/' ∉ host.toList) (hne : host ≠ "") :
    host = "." ∧ steps host = [] ∨ host ≠ "." ∧ steps host = [host] := by
  rw [steps_of_no_slash hs]
  by_cases hd : host = "."
  · exact Or.inl ⟨hd, by simp [hd]⟩
  · exact Or.inr ⟨hd, by simp [hd, hne]⟩

/-- The paths of a call are those of the files of an artifact in the call's directory. -/
structure Call.FilesOf (call : Call) (name : String) (kind : Kind) (process number : Nat) :
    Prop where
  slash : '/' ∉ name.toList
  artifact : call.artifact = join call.directory (Role.artifact.file name kind)
  source : call.sourcePath = join call.directory (Role.source.file name kind)
  metadata : metadataPath call.artifact = join call.directory (Role.metadata.file name kind)
  staging : call.staging = join call.directory ((Role.staging process number).file name kind)

theorem call_filesOf (settings : Settings) (store : Store) (request : Request) (body : Bytes)
    (kind : Kind) :
    (Call.of settings store request body kind).FilesOf (artifactName request.pathComponents) kind
      store.process store.staged := by
  have hs := slash_not_mem_artifactName request.pathComponents
  have hc := isComponent_file .artifact kind hs
  refine ⟨hs, ?_, ?_, ?_, ?_⟩
  all_goals simp only [Call.of, Role.file]
  exact (join_append hc.no_slash hc.ne_empty ".json").symm

variable {call : Call} {name : String} {kind : Kind} {process number : Nat}

theorem Call.FilesOf.isComponent (h : call.FilesOf name kind process number) (r : Role) :
    IsComponent (r.file name kind) := isComponent_file r kind h.slash

/-! ## What a call can do -/

/-- Publishing succeeds when the tool did, and left a file that can be moved. -/
theorem publish_eq_ok {job : Job} {artifact : String} {run : ToolRun} {t : FileTree}
    {body : Bytes} : publish job artifact run = (t, .ok body) ↔
      run.result = .ok () ∧ run.tree.read job.output = .ok body ∧
        run.tree.rename job.output artifact = .ok t := by
  unfold publish
  simp only
  cases hr : run.result with
  | error fault => simp
  | ok _ =>
    cases hb : run.tree.read job.output with
    | error e => cases e <;> simp
    | ok content =>
      cases hm : run.tree.rename job.output artifact with
      | error e => simp
      | ok t' => simp [and_comm]

/-- Publishing that fails changes nothing. -/
theorem tree_of_publish_error {job : Job} {artifact : String} {run : ToolRun} {t : FileTree}
    {fault : Fault} (h : publish job artifact run = (t, .error fault)) : t = run.tree := by
  unfold publish at h
  simp only at h
  repeat' split at h
  all_goals simp_all

/-- A miss fails without its directory or its source, and else runs the tool. -/
theorem answerMiss_cases (settings : Settings) (tool : Tool) (store : Store) (call : Call)
    (kind : Kind) (url : String) :
    (∃ trace fault, (∀ t, store.tree.makeDirectories call.directory ≠ .ok t) ∧
      answerMiss settings tool store call kind url =
        ⟨{ store with tree := store.tree.grow call.directory }, trace, .error fault⟩) ∨
    ∃ t, store.tree.makeDirectories call.directory = .ok t ∧
      ((∃ trace fault, (∀ t', t.write call.sourcePath call.source ≠ .ok t') ∧
        answerMiss settings tool store call kind url =
          ⟨{ store with tree := t }, trace, .error fault⟩) ∨
      ∃ trace t', t.write call.sourcePath call.source = .ok t' ∧
        answerMiss settings tool store call kind url =
          (runTool settings tool { store with tree := t' } call kind url).after trace) := by
  unfold answerMiss
  simp only
  cases hm : store.tree.makeDirectories call.directory with
  | error e => exact Or.inl ⟨_, _, by simp, rfl⟩
  | ok t =>
    refine Or.inr ⟨t, rfl, ?_⟩
    dsimp only
    cases hw : t.write call.sourcePath call.source with
    | error e => exact Or.inl ⟨_, _, by simp, rfl⟩
    | ok t' => exact Or.inr ⟨_, t', rfl, rfl⟩

/-! ## What changes -/

/-- The places of the files that running the tool changes. -/
def Call.Makes (call : Call) (t : FileTree) (p : Place) : Prop :=
  p = t.placeOf call.artifact ∨ p = t.placeOf (metadataPath call.artifact) ∨
    p = t.placeOf call.staging

/-- The places of a call's files. -/
def Call.Touches (call : Call) (t : FileTree) (p : Place) : Prop :=
  p = t.placeOf call.sourcePath ∨ call.Makes t p

theorem publish_changed {places : Place → Prop} {t : FileTree} {job : Job} {artifact : String}
    {run : ToolRun} (h : ChangedAt places t run.tree) (hout : places (t.placeOf job.output))
    (hart : places (t.placeOf artifact)) : ChangedAt places t (publish job artifact run).1 := by
  cases hp : publish job artifact run with
  | mk t' result =>
    cases result with
    | error fault =>
      rw [tree_of_publish_error hp]
      exact h
    | ok body =>
      obtain ⟨-, -, hm⟩ := publish_eq_ok.mp hp
      refine h.trans ((ChangedAt.rename hm).mono fun p hp => ?_)
      rw [h.placeOf, h.placeOf] at hp
      rcases hp with rfl | rfl
      · exact hout
      · exact hart

theorem recordMetadata_changed (t : FileTree) (artifact : String) (m : Metadata) :
    ChangedAt (· = t.placeOf (metadataPath artifact)) t (recordMetadata t artifact m).1 := by
  unfold recordMetadata
  simp only
  cases hw : t.write (metadataPath artifact) (Bytes.ofText m.toJson.pretty) with
  | error e => exact ChangedAt.refl _ _
  | ok t' => exact ChangedAt.write hw

theorem remove_changed (t : FileTree) (path : String) :
    ChangedAt (· = t.placeOf path) t ((t.remove path).toOption.getD t) := by
  cases hr : t.remove path with
  | error e => exact ChangedAt.refl _ _
  | ok t' => exact ChangedAt.remove hr

variable {settings : Settings} {tool : Tool} {store : Store} {url : String}

theorem runTool_changed (htool : tool.Confined) (store : Store) :
    ChangedAt (call.Makes store.tree) store.tree
      (runTool settings tool store call kind url).store.tree := by
  unfold runTool
  simp only
  generalize hj : Job.mk kind call.source call.staging settings.mode url = job
  have hout : job.output = call.staging := by rw [← hj]
  have hrun : ChangedAt (call.Makes store.tree) store.tree (tool job store.tree).tree := by
    refine (htool job store.tree).mono fun p hp => ?_
    rw [hout] at hp
    exact Or.inr (Or.inr hp)
  have hpub : ChangedAt (call.Makes store.tree) store.tree
      (publish job call.artifact (tool job store.tree)).1 := by
    refine publish_changed hrun ?_ (Or.inl rfl)
    rw [hout]
    exact Or.inr (Or.inr rfl)
  cases hp : publish job call.artifact (tool job store.tree) with
  | mk t result =>
    rw [hp] at hpub
    cases result with
    | error fault =>
      refine hpub.trans ((remove_changed t call.staging).mono fun p hp => ?_)
      rw [hpub.placeOf] at hp
      exact Or.inr (Or.inr hp)
    | ok body =>
      refine hpub.trans ((recordMetadata_changed t call.artifact _).mono fun p hp => ?_)
      rw [hpub.placeOf] at hp
      exact Or.inr (Or.inl hp)

/-- A run that fails leaves all but its staging file as it was. -/
theorem runTool_changed_of_error (htool : tool.Confined) (store : Store) {fault : Fault}
    (h : (runTool settings tool store call kind url).result = .error fault) :
    ChangedAt (· = store.tree.placeOf call.staging) store.tree
      (runTool settings tool store call kind url).store.tree := by
  unfold runTool at h ⊢
  simp only at h ⊢
  generalize hj : Job.mk kind call.source call.staging settings.mode url = job at h ⊢
  have hout : job.output = call.staging := by rw [← hj]
  have hrun := htool job store.tree
  rw [hout] at hrun
  cases hp : publish job call.artifact (tool job store.tree) with
  | mk t result =>
    cases result with
    | ok body => simp [hp] at h
    | error fault' =>
      rw [tree_of_publish_error hp]
      refine hrun.trans ((remove_changed _ call.staging).mono fun p hp => ?_)
      rw [hrun.placeOf] at hp
      exact hp

/-- A call makes directories on its ways and changes its own files only. -/
theorem answerMiss_grown {ways : Place → Prop} (htool : tool.Confined) (store : Store)
    (hways : GrownAt ways (call.Touches store.tree) store.tree (store.tree.grow call.directory)) :
    GrownAt ways (call.Touches store.tree) store.tree
      (answerMiss settings tool store call kind url).store.tree := by
  obtain ⟨trace, fault, -, he⟩ | ⟨t, hm, ⟨trace, fault, -, he⟩ | ⟨trace, t', hw, he⟩⟩ :=
    answerMiss_cases settings tool store call kind url
  · rw [he]
    exact hways
  · rw [he, ← grow_of_makeDirectories hm]
    exact hways
  · rw [he]
    rw [grow_of_makeDirectories hm] at hways
    have hsource : ChangedAt (call.Touches store.tree) t t' := by
      refine (ChangedAt.write hw).mono fun p hp => ?_
      rw [hways.changed.placeOf] at hp
      exact Or.inl hp
    have hrun : ChangedAt (call.Makes t') t'
        (runTool settings tool { store with tree := t' } call kind url).store.tree :=
      runTool_changed htool { store with tree := t' }
    refine (hways.trans (.of_changed _ hsource)).trans
      (.of_changed _ (hrun.mono fun p hp => Or.inr ?_))
    simpa only [Call.Makes, (ChangedAt.write hw).placeOf, hways.changed.placeOf] using hp

/-- **A call that fails leaves an older artifact as it was.** -/
theorem answerMiss_grown_of_error {ways : Place → Prop} (htool : tool.Confined) (store : Store)
    (hways : GrownAt ways (fun _ => False) store.tree (store.tree.grow call.directory))
    {fault : Fault} (h : (answerMiss settings tool store call kind url).result = .error fault) :
    GrownAt ways
      (fun p => p = store.tree.placeOf call.sourcePath ∨ p = store.tree.placeOf call.staging)
      store.tree (answerMiss settings tool store call kind url).store.tree := by
  obtain ⟨trace, fault', -, he⟩ | ⟨t, hm, ⟨trace, fault', -, he⟩ | ⟨trace, t', hw, he⟩⟩ :=
    answerMiss_cases settings tool store call kind url
  · rw [he]
    exact hways.mono (fun _ => id) (fun _ => False.elim)
  · rw [he, ← grow_of_makeDirectories hm]
    exact hways.mono (fun _ => id) (fun _ => False.elim)
  · rw [he] at h ⊢
    rw [grow_of_makeDirectories hm] at hways
    have hsource := ChangedAt.write hw
    have hrun := runTool_changed_of_error htool { store with tree := t' } h
    rw [hways.changed.placeOf] at hsource
    dsimp only at hrun
    rw [hsource.placeOf, hways.changed.placeOf] at hrun
    exact ((hways.mono (fun _ => id) (fun _ => False.elim)).trans
      (.of_changed _ (hsource.mono fun _ => Or.inl))).trans
        (.of_changed _ (hrun.mono fun _ => Or.inr))

theorem answerHit_store (artifact : String) : (answerHit store artifact url).store = store := by
  unfold answerHit
  simp only
  split <;> rfl

/-- **A call makes the directories on its way and changes its own files only.** -/
theorem instrument_grown (htool : tool.Confined) (settings : Settings) (store : Store)
    (request : Request) (body : Bytes) (kind : Kind) :
    GrownAt (onWay store.tree (Call.of settings store request body kind).directory)
      ((Call.of settings store request body kind).Touches store.tree) store.tree
      (instrument settings tool store request body kind).store.tree := by
  unfold instrument
  simp only [Answer.after]
  split
  · rw [answerHit_store]
    exact GrownAt.refl _ _ _
  · exact answerMiss_grown htool store (grow_grown _ _ _)

/-- A tool that always fails makes every call fail that finds no artifact. -/
theorem exists_instrument_error (htool : ∀ job t, ∃ fault, (tool job t).result = .error fault)
    {request : Request} {body : Bytes}
    (hmiss : (settings.useCache &&
      store.tree.isFile (Call.of settings store request body kind).artifact) = false) :
    ∃ fault, (instrument settings tool store request body kind).result = .error fault := by
  simp only [instrument, hmiss, Bool.false_eq_true, if_false, Answer.after]
  obtain ⟨_, fault, -, he⟩ | ⟨t, -, ⟨_, fault, -, he⟩ | ⟨_, t', -, he⟩⟩ :=
    answerMiss_cases settings tool store (Call.of settings store request body kind) kind
      request.clientUrl
  · exact ⟨fault, congrArg Answer.result he⟩
  · exact ⟨fault, congrArg Answer.result he⟩
  · rw [he]
    simp only [Answer.after, runTool, publish]
    generalize Job.mk kind _ _ _ _ = job
    obtain ⟨fault, hfault⟩ := htool job t'
    rw [hfault]
    exact ⟨fault, rfl⟩

/-! ## Artifacts in place -/

theorem Call.FilesOf.placeOf_artifact (h : call.FilesOf name kind process number)
    (t : FileTree) : t.placeOf call.artifact =
      t.placeOf call.directory ++ [Role.artifact.file name kind] := by
  rw [h.artifact, placeOf_join t (h.isComponent .artifact)]

/-- The files that running the tool changes have all roles but that of the source. -/
theorem Call.FilesOf.exists_role_of_makes (h : call.FilesOf name kind process number)
    {t : FileTree} {p : Place} (hp : call.Makes t p) :
    ∃ r ∈ Role.ofCall process number, r ≠ .source ∧
      p = t.placeOf call.directory ++ [r.file name kind] := by
  rcases hp with rfl | rfl | rfl
  · exact ⟨.artifact, by simp [Role.ofCall], nofun,
      by rw [h.artifact, placeOf_join t (h.isComponent _)]⟩
  · exact ⟨.metadata, by simp [Role.ofCall], nofun,
      by rw [h.metadata, placeOf_join t (h.isComponent _)]⟩
  · exact ⟨.staging process number, by simp [Role.ofCall], nofun,
      by rw [h.staging, placeOf_join t (h.isComponent _)]⟩

/-- The places of a call's files are those of its roles. -/
theorem Call.FilesOf.exists_role (h : call.FilesOf name kind process number) {t : FileTree}
    {p : Place} (hp : call.Touches t p) :
    ∃ r ∈ Role.ofCall process number, p = t.placeOf call.directory ++ [r.file name kind] := by
  rcases hp with rfl | hp
  · exact ⟨.source, by simp [Role.ofCall], by rw [h.source, placeOf_join t (h.isComponent _)]⟩
  · obtain ⟨r, hr, -, he⟩ := h.exists_role_of_makes hp
    exact ⟨r, hr, he⟩

theorem read_of_runTool (hf : call.FilesOf name kind process number) {i : Instrumented}
    (h : (runTool settings tool store call kind url).result = .ok i) :
    i.artifact = call.artifact ∧
      (runTool settings tool store call kind url).store.tree.read call.artifact = .ok i.body := by
  unfold runTool at h ⊢
  simp only at h ⊢
  generalize Job.mk kind call.source call.staging settings.mode url = job at h ⊢
  cases hp : publish job call.artifact (tool job store.tree) with
  | mk t result =>
    cases result with
    | error fault => simp [hp] at h
    | ok body =>
      simp only [hp, Except.ok.injEq] at h
      subst h
      obtain ⟨-, hb, hm⟩ := publish_eq_ok.mp hp
      refine ⟨rfl, ?_⟩
      refine (GrownAt.of_changed (fun _ => False) (recordMetadata_changed t _ _)).read
        (fun he => ?_) (ChangedAt.read_of_rename hb hm)
      rw [hf.placeOf_artifact, hf.metadata, placeOf_join t (hf.isComponent .metadata)] at he
      have := (Role.file_injective (List.cons.inj (List.append_cancel_left he)).1).1
      cases this

/-- **A call that succeeds leaves its artifact in place, with the body it answered.** -/
theorem read_of_instrument {request : Request} {body : Bytes} {i : Instrumented}
    (h : (instrument settings tool store request body kind).result = .ok i) :
    i.artifact = (Call.of settings store request body kind).artifact ∧
      (instrument settings tool store request body kind).store.tree.read
        (Call.of settings store request body kind).artifact = .ok i.body := by
  have hf := call_filesOf settings store request body kind
  unfold instrument at h ⊢
  simp only [Answer.after] at h ⊢
  generalize Call.of settings store request body kind = call at h hf ⊢
  split at h
  · rename_i hhit
    rw [if_pos hhit]
    unfold answerHit at h ⊢
    simp only at h ⊢
    cases hr : store.tree.read call.artifact with
    | error e => simp [hr] at h
    | ok content =>
      simp only [hr, Except.ok.injEq] at h
      subst h
      exact ⟨rfl, hr⟩
  · rename_i hmiss
    rw [if_neg hmiss]
    obtain ⟨trace, fault, -, he⟩ | ⟨t, -, ⟨trace, fault, -, he⟩ | ⟨trace, t', -, he⟩⟩ :=
      answerMiss_cases settings tool store call kind request.clientUrl
    · simp [he] at h
    · simp [he] at h
    · rw [he] at h ⊢
      exact read_of_runTool hf h

/-- **While its artifact is in place, a call is a hit that changes nothing and runs no tool.** -/
theorem instrument_eq_hit (hcache : settings.useCache = true) {request : Request}
    {body artifactBody : Bytes}
    (h : store.tree.read (Call.of settings store request body kind).artifact = .ok artifactBody) :
    (instrument settings tool store request body kind).result =
        .ok ⟨artifactBody, true, (Call.of settings store request body kind).artifact⟩ ∧
      (instrument settings tool store request body kind).store = store ∧
      (instrument settings tool store request body kind).trace.jobs = [] := by
  unfold instrument
  generalize Call.of settings store request body kind = call at h
  have hfile : store.tree.isFile call.artifact = true := isFile_eq_true.mpr ⟨_, h⟩
  simp only [hcache, hfile, Bool.and_self, if_true, answerHit, h, Answer.after, true_and,
    Trace.jobs_append, Trace.jobs_normalizing, List.nil_append]
  rfl

end Cache

end Interpose
